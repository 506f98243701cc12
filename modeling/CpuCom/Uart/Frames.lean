import CpuCom.Uart.Device

/-! The sender's encoder. Assertions are compiled out, as in the platform build;
where the source states one, a theorem of `FrameLayout` gives its range. -/

namespace CpuCom.Uart

/-- The byte of a number that a shift selects, as `(value >> shift) & 0x000000ff`. -/
def byteAt (value shift : Nat) : UInt8 := UInt8.ofNat ((value >>> shift) &&& 0x000000ff)

section
variable (checksum : List UInt8 → UInt8)

/-- `STX`, the bytes from the length to the `ETX`, and their checksum. -/
def sealFrame (lenToEtx : List UInt8) : Frame :=
  ControlCode.stx :: lenToEtx ++ [checksum lenToEtx]

def regularFrame (data : List UInt8) : Frame :=
  sealFrame checksum
    (UInt8.ofNat (data.length + kFrameFooterLength) :: data ++ [ControlCode.etx])

def extendedLengthFrame (data : List UInt8) : Frame :=
  let length := uint32 (data.length + kExtLenLength + kFrameFooterLength)
  sealFrame checksum
    (ControlCode.extLen :: data.getD 0 0 :: data.getD 1 0 :: data.getD 2 0 ::
      byteAt length 16 :: byteAt length 8 :: byteAt length 0 :: data.drop 3 ++ [ControlCode.etx])

/-- One frame of a divided message. -/
def dividedFrame (command subCommand codebit : UInt8) (length frameNumber framesCount : Nat)
    (payload : List UInt8) : Frame :=
  sealFrame checksum
    (ControlCode.extLen :: command :: subCommand :: codebit ::
      byteAt length 16 :: byteAt length 8 :: byteAt length 0 ::
      byteAt frameNumber 8 :: byteAt frameNumber 0 ::
      byteAt framesCount 8 :: byteAt framesCount 0 :: payload ++ [ControlCode.etx])

/-- The loop that divides a message, with `remaining` iterations to go. The frame
index, the code bit, the outstanding length and the data are its variables. -/
def divideFrames (command subCommand : UInt8) (framesCount : Nat) :
    (remaining i : Nat) → (codebit : UInt8) → (actualDataLength : Nat) → (data : List UInt8) → List Frame
  | 0, _, _, _, _ => []
  | remaining + 1, i, codebit, actualDataLength, data =>
      let codebit := if i = framesCount - 1 then codebit ||| 0x03 else codebit ||| 0x02
      let length := min actualDataLength kMaxActualDataLength
      let frameLength := length + (kCmdLength + kExtLenLength + kFrameNumberLength +
        kTotalFramesLength + kFrameFooterLength)
      let dataLength := min kMaxActualDataLength (uint32 data.length)
      dividedFrame checksum command subCommand codebit frameLength i framesCount
          ((data.drop (if i = 0 then 3 else 0)).take dataLength) ::
        divideFrames command subCommand framesCount remaining (i + 1) codebit (actualDataLength - length)
          (data.drop (dataLength + if i = 0 then kCmdLength else 0))

/-- The number of frames of a divided message, `framesCount`. -/
def countFrames (actualDataLength : Nat) : Nat :=
  actualDataLength / kMaxActualDataLength +
    (if actualDataLength % kMaxActualDataLength > 0 then 1 else 0)

def prepareFrames (data : List UInt8) : List Frame :=
  if data.length ≤ kMaxFrameLength - kFrameFooterLength then
    [regularFrame checksum data]
  else if data.length ≤ kMaxExtendedLengthFrameLength - kFrameFooterLength then
    [extendedLengthFrame checksum data]
  else
    let actualDataLength := uint32 (data.length - kCmdLength)
    let framesCount := countFrames actualDataLength
    divideFrames checksum (data.getD 0 0) (data.getD 1 0) framesCount framesCount 0
      (data.getD 2 0) actualDataLength data

end

end CpuCom.Uart
