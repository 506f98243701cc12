import CpuCom.Uart.SendMachine

/-! The receive machine of `Protocol`: its context, the handlers of its nineteen
states, the registered transitions, and what `Protocol::receive` makes of the
context when the machine has ended. -/

namespace CpuCom.Uart
open Interaction

inductive TransmitionType where
  | notDefinedYet
  | regular
  | extendedLength
  | extendedLengthWithFrameDivision
deriving DecidableEq, Repr

/-- `RecvContext`. Its frame list always ends with the current frame, so the list
is kept as the frames completed before it and the frame itself. -/
structure RecvContext where
  completedFrames : List Frame
  currentFrame : Frame
  result : Bool
  transmitionType : TransmitionType
  dataLength : Nat
  frameNumber : Nat
  totalFrames : Nat
deriving DecidableEq, Repr

namespace RecvContext

def initial : RecvContext := ⟨[], [], false, .notDefinedYet, 0, 0, 0⟩

def frames (context : RecvContext) : List Frame := context.completedFrames ++ [context.currentFrame]

/-- Bytes stored behind the end of the current frame. -/
def store (context : RecvContext) (bytes : List UInt8) : RecvContext :=
  { context with currentFrame := context.currentFrame ++ bytes }

@[simp] theorem store_store (context : RecvContext) (first rest : List UInt8) :
    (context.store first).store rest = context.store (first ++ rest) := by
  simp [store]

@[simp] theorem store_nil (context : RecvContext) : context.store [] = context := by
  simp [store]

def onFrameCompleted (context : RecvContext) : RecvContext :=
  { context with completedFrames := context.frames, currentFrame := [] }

/-- How a frame with `EXT_LEN` is taken, from the length that it declares. -/
def setExtendedLength (context : RecvContext) (length : Nat) : RecvContext :=
  { context with
    dataLength := sub32 length kFrameFooterLength
    transmitionType :=
      if length > kMaxExtendedLengthFrameLength ∨
          context.transmitionType = .extendedLengthWithFrameDivision then
        .extendedLengthWithFrameDivision
      else .extendedLength }

end RecvContext

inductive RecvState where
  | idle
  | poll
  | repoll
  | enquiry
  | ack
  | stx
  | len
  | datacmd
  | dataextlen
  | dataframenumber
  | data
  | etx
  | cs
  | ack2
  | nak
  | retry
  | done
  | error
  | «end»
deriving DecidableEq, Repr

/-- What a receive works on: the context and the attempt counter `m_r1`. -/
structure Receiving where
  context : RecvContext
  r1 : Nat
deriving DecidableEq, Repr

/-- The loop of `recvEnquiry` carries the last byte read, if there is one. -/
abbrev RecvConfig := Config RecvState (Option UInt8) Receiving

/-- The event of a read inside a frame that stores whatever arrives. -/
def Result.event : Result → Event
  | .success => .pass
  | .timeout => .deny
  | .error => .fail

/-- The big-endian number of a two-byte field, as a `uint16_t`. -/
def decode16 (bytes : List UInt8) : Nat :=
  (((bytes.getD 0 0).toNat <<< 8) &&& 0xff00) + ((bytes.getD 1 0).toNat &&& 0x00ff)

/-- The big-endian number of a three-byte field. -/
def decode24 (bytes : List UInt8) : Nat :=
  (((bytes.getD 0 0).toNat <<< 16) &&& 0x00ff0000) + (((bytes.getD 1 0).toNat <<< 8) &&& 0x0000ff00) +
    ((bytes.getD 2 0).toNat &&& 0x000000ff)

namespace Protocol

def recvControlCode (code : UInt8) (context : RecvContext) : CallProgram (RecvContext × Event) := do
  let response ← Program.request (.read kTimeout3)
  match response.result with
  | .success =>
      if response.byte = code then pure (context.store [response.byte], .pass)
      else pure (context, .deny)
  | .timeout => pure (context, .deny)
  | .error => pure (context, .fail)

def recvIdle (receiving : Receiving) : CallProgram (Receiving × Event) :=
  pure ({ receiving with r1 := 0 }, .pass)

def recvPoll : CallProgram Event := do
  let response ← Program.request (.poll .infinite)
  if response.result = .success then
    let _ ← Program.request .lock
    pure .pass
  else pure .fail

def recvRepoll : CallProgram Event := do
  let _ ← Program.request .unlock
  pure .pass

/-- The first read and then the loop over the bytes that follow at once. The loop
ends at the first read that stores no byte, and the last byte stored decides. -/
def recvEnquiry : Option UInt8 → CallProgram (Flow (Option UInt8) Event)
  | none => do
      let response ← Program.request (.read .immediate)
      match response.result with
      | .success => pure (.again (some response.byte))
      | .timeout => pure (.event .busy)
      | .error => pure (.event .fail)
  | some byte => do
      let response ← Program.request (.read .immediate)
      match response.result with
      | .success => pure (.again (some response.byte))
      | .timeout =>
          if byte = ControlCode.enq then pure (.event .pass)
          else if byte = ControlCode.nak then pure (.event .busy)
          else pure (.event .deny)
      | .error => pure (.event .fail)

def recvAcknowledgement : CallProgram Event := do
  let response ← Program.request (.writeByte ControlCode.ack)
  if response.result = .success then pure .pass else pure .fail

def recvLength (context : RecvContext) : CallProgram (RecvContext × Event) := do
  let response ← Program.request (.read kTimeout4)
  match response.result with
  | .success =>
      let b := response.byte
      if b = ControlCode.extLen then pure (context.store [b], .pass)
      else if kMinFrameLength ≤ b.toNat ∧ b.toNat ≤ kMaxFrameLength then
        let context := { context with
          transmitionType := .regular, dataLength := b.toNat - kFrameFooterLength }
        pure (context.store [b], .pass)
      else pure (context, .deny)
  | .timeout => pure (context, .deny)
  | .error => pure (context, .fail)

def recvDataCommand (context : RecvContext) : CallProgram (RecvContext × Event) := do
  let response ← Program.request (.readMulti kCmdLength kTimeout4)
  pure (context.store (response.fill kCmdLength), response.result.event)

def recvDataExtLen (context : RecvContext) : CallProgram (RecvContext × Event) :=
  if context.transmitionType ≠ .regular then do
    let response ← Program.request (.readMulti kExtLenLength kTimeout4)
    let lengthdata := response.fill kExtLenLength
    let context := context.store lengthdata
    match response.result with
    | .success => pure (RecvContext.setExtendedLength context (decode24 lengthdata), .pass)
    | .timeout => pure (context, .deny)
    | .error => pure (context, .fail)
  else pure (context, .pass)

def recvDataFrameNumber (context : RecvContext) : CallProgram (RecvContext × Event) :=
  if context.transmitionType = .extendedLengthWithFrameDivision then do
    let response ← Program.request (.readMulti (kFrameNumberLength + kTotalFramesLength) kTimeout4)
    let framesdata := response.fill (kFrameNumberLength + kTotalFramesLength)
    let context := context.store framesdata
    match response.result with
    | .success =>
        pure ({ context with
          totalFrames := decode16 (framesdata.drop 2), frameNumber := decode16 framesdata }, .pass)
    | .timeout => pure (context, .deny)
    | .error => pure (context, .fail)
  else pure (context, .pass)

/-- The bytes between the length and the data that the declared length counts. -/
def headerLength : TransmitionType → Nat
  | .regular => kCmdLength
  | .extendedLength => kCmdLength + kExtLenLength
  | _ => kCmdLength + kExtLenLength + kFrameNumberLength + kTotalFramesLength

/-- The number of bytes that `recvData` asks for. -/
def dataSize (context : RecvContext) : Nat :=
  sub32 context.dataLength (headerLength context.transmitionType)

def recvData (context : RecvContext) : CallProgram (RecvContext × Event) := do
  let response ← Program.request (.readMulti (dataSize context) kTimeout4)
  pure (context.store (response.fill (dataSize context)), response.result.event)

section
variable (checksum : List UInt8 → UInt8)

def recvChecksum (context : RecvContext) : CallProgram (RecvContext × Event) := do
  let calculated := checksum (context.currentFrame.drop 1)
  let response ← Program.request (.read kTimeout4)
  match response.result with
  | .success =>
      if response.byte = calculated then pure (context.store [response.byte], .pass)
      else pure (context, .deny)
  | .timeout => pure (context, .deny)
  | .error => pure (context, .fail)

def recvAcknowledgement2 : CallProgram Event := recvAcknowledgement

def recvNak : CallProgram Event := do
  let response ← Program.request (.writeByte ControlCode.nak)
  if response.result = .success then pure .pass else pure .fail

def recvRetry (receiving : Receiving) : CallProgram (Receiving × Event) :=
  let receiving := { receiving with r1 := receiving.r1 + 1, context.currentFrame := [] }
  if receiving.r1 < kMaxNumberOfRecvAttempts then pure (receiving, .pass) else pure (receiving, .fail)

/-- The last frame is told by its own frame number and total. -/
def recvDone (context : RecvContext) : CallProgram (RecvContext × Event) :=
  match context.transmitionType with
  | .regular => pure ({ context with result := true }, .pass)
  | .extendedLength => pure ({ context with result := true }, .pass)
  | .extendedLengthWithFrameDivision =>
      if context.frameNumber = sub32 context.totalFrames 1 then
        pure ({ context with result := true }, .pass)
      else pure (context.onFrameCompleted, .wait)
  | .notDefinedYet => pure (context, .fail)

def recvError (context : RecvContext) : CallProgram (RecvContext × Event) :=
  pure ({ context with result := false }, .pass)

def recvEnd : CallProgram Event := do
  let _ ← Program.request .unlock
  pure .pass

/-- A handler without a loop that works on the context only. -/
def onContext (receiving : Receiving) (handler : RecvContext → CallProgram (RecvContext × Event)) :
    CallProgram (Receiving × Flow (Option UInt8) Event) := do
  let result ← handler receiving.context
  pure ({ receiving with context := result.1 }, .event result.2)

theorem returns_onContext {receiving after : Receiving} {handler : RecvContext → CallProgram (RecvContext × Event)}
    {flow : Flow (Option UInt8) Event} {trace : List (Call × Response)}
    (returned : (onContext receiving handler).Returns trace (after, flow)) :
    ∃ context event, (handler receiving.context).Returns trace (context, event) ∧
      after = ⟨context, receiving.r1⟩ ∧ flow = .event event := by
  obtain ⟨⟨context, event⟩, first, rest, rfl, handled, rfl, same⟩ := Program.returns_bind.mp returned
  rw [Prod.mk.injEq] at same
  exact ⟨context, event, by rwa [List.append_nil], same⟩

def recvHandler : RecvState → Option UInt8 → Receiving → CallProgram (Receiving × Flow (Option UInt8) Event)
  | .idle, _, receiving => once (recvIdle receiving)
  | .poll, _, receiving => signal receiving recvPoll
  | .repoll, _, receiving => signal receiving recvRepoll
  | .enquiry, byte, receiving => do
      let flow ← recvEnquiry byte
      pure (receiving, flow)
  | .ack, _, receiving => signal receiving recvAcknowledgement
  | .stx, _, receiving => onContext receiving (recvControlCode ControlCode.stx)
  | .len, _, receiving => onContext receiving recvLength
  | .datacmd, _, receiving => onContext receiving recvDataCommand
  | .dataextlen, _, receiving => onContext receiving recvDataExtLen
  | .dataframenumber, _, receiving => onContext receiving recvDataFrameNumber
  | .data, _, receiving => onContext receiving recvData
  | .etx, _, receiving => onContext receiving (recvControlCode ControlCode.etx)
  | .cs, _, receiving => onContext receiving (recvChecksum checksum)
  | .ack2, _, receiving => signal receiving recvAcknowledgement2
  | .nak, _, receiving => signal receiving recvNak
  | .retry, _, receiving => once (recvRetry receiving)
  | .done, _, receiving => onContext receiving recvDone
  | .error, _, receiving => onContext receiving recvError
  | .end, _, receiving => signal receiving recvEnd

/-- The registered transitions. None is registered for the final state, and the
machine never asks for one. -/
def recvTransition : RecvState → Event → RecvState
  | .idle, .pass => .poll
  | .poll, .pass => .enquiry
  | .repoll, .pass => .poll
  | .enquiry, .pass => .ack
  | .enquiry, .busy => .repoll
  | .enquiry, .deny => .retry
  | .ack, .pass => .stx
  | .stx, .pass => .len
  | .stx, .deny => .nak
  | .len, .pass => .datacmd
  | .len, .deny => .nak
  | .datacmd, .pass => .dataextlen
  | .datacmd, .deny => .nak
  | .dataextlen, .pass => .dataframenumber
  | .dataextlen, .deny => .nak
  | .dataframenumber, .pass => .data
  | .dataframenumber, .deny => .nak
  | .data, .pass => .etx
  | .data, .deny => .nak
  | .etx, .pass => .cs
  | .etx, .deny => .nak
  | .cs, .pass => .ack2
  | .cs, .deny => .nak
  | .cs, .fail => .nak
  | .ack2, .pass => .done
  | .nak, .pass => .retry
  | .retry, .pass => .repoll
  | .done, .wait => .enquiry
  | .done, _ => .end
  | .error, _ => .end
  | .end, _ => .end
  | _, _ => .error

def recvMachine : FiniteStateMachine RecvState Event (Option UInt8) Call Response Receiving where
  initialState := .idle
  finalState := .end
  enter := none
  handler := recvHandler checksum
  transition := recvTransition

/-- A receive begins with a new context and whatever count the last one left. -/
def recvStart (r1 : Nat) : RecvConfig := (recvMachine checksum).start ⟨.initial, r1⟩

end

/-- What a caller gets: an exception or a read past the end, the answer false, or
the answer true with a value. -/
inductive Received (α : Type) where
  | crashed
  | nothing
  | message (value : α)
deriving DecidableEq, Repr

/-- The data after one iteration of the loop that joins divided frames. -/
def joinFrame (totalFrames i : Nat) (data : List UInt8) (frame : Frame) : List UInt8 :=
  if i = 0 then
    let extendedLengthBegin := kStxLength + kLenLength + kCmdLength
    let totalFramesEnd := extendedLengthBegin + (kExtLenLength + kFrameNumberLength + kTotalFramesLength)
    let data := frame.take extendedLengthBegin ++ frame.drop totalFramesEnd
    data.take (data.length - (kCsLength + kEtxLength))
  else
    let actualDataBegin := kStxLength + kLenLength + kCmdLength + kExtLenLength + kFrameNumberLength +
      kTotalFramesLength
    let actualDataEnd :=
      if i = sub32 totalFrames 1 then frame.length else frame.length - (kCsLength + kEtxLength)
    data ++ (frame.take actualDataEnd).drop actualDataBegin

/-- The data after the first iterations of that loop; `at` throws where a frame
is missing. -/
def joinFrames (context : RecvContext) : Nat → Option (List UInt8)
  | 0 => some []
  | i + 1 =>
      match joinFrames context i, context.frames[i]? with
      | some data, some frame => some (joinFrame context.totalFrames i data frame)
      | _, _ => none

/-- The end of `receive`: only the protocol knows about `STX`, `LEN`, `ETX` and `CS`. -/
def stripFrame (data : List UInt8) : List UInt8 :=
  let data := data.drop (kStxLength + kLenLength)
  data.take (data.length - (kCsLength + kEtxLength))

/-- `Protocol::receive` after its machine has ended with this context. -/
def receive (context : RecvContext) : Received (List UInt8) :=
  if context.result then
    match context.transmitionType with
    | .extendedLengthWithFrameDivision =>
        match joinFrames context context.totalFrames with
        | none => .crashed
        | some data => .message (stripFrame data)
    | .extendedLength =>
        let data := context.currentFrame
        let extendedLengthBegin := kStxLength + kLenLength + kCmdLength
        .message (stripFrame
          (data.take extendedLengthBegin ++ data.drop (extendedLengthBegin + kExtLenLength)))
    | _ => .message (stripFrame context.currentFrame)
  else .nothing

end Protocol
end CpuCom.Uart
