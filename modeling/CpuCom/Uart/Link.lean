import CpuCom.Interaction.Execution
import CpuCom.Uart.Cpu

/-! A clean line between two devices. On the line stand the bytes in order and the
moments of silence, in which a read times out. -/

namespace CpuCom.Uart
open Interaction

inductive Symbol where
  | byte (value : UInt8)
  | silence
deriving DecidableEq, Repr

namespace Link

def readBytes : Nat → List Symbol → Option (Response × List Symbol)
  | 0, line => some (⟨.success, []⟩, line)
  | _ + 1, [] => none
  | _ + 1, .silence :: line => some (⟨.timeout, []⟩, line)
  | size + 1, .byte value :: line =>
      (readBytes size line).map fun (response, rest) =>
        ({ response with bytes := value :: response.bytes }, rest)

/-- The receiver's device. A read takes the next symbol, a poll waits for a byte,
every other call succeeds. Nothing is answered beyond the end of the line. -/
def answer (line : List Symbol) : Call → Option (Response × List Symbol)
  | .read _ =>
      match line with
      | [] => none
      | .silence :: rest => some (⟨.timeout, []⟩, rest)
      | .byte value :: rest => some (⟨.success, [value]⟩, rest)
  | .readMulti size _ => readBytes size line
  | .poll _ =>
      match line.dropWhile (· = .silence) with
      | [] => none
      | rest => some (⟨.success, []⟩, rest)
  | _ => some (⟨.success, []⟩, line)

/-- The sender's device, whose state is the line that it has filled. The line is
quiet before each enquiry, every write succeeds, and the peer acknowledges. -/
def transmit (line : List Symbol) : Call → Option (Response × List Symbol)
  | .read .immediate => some (⟨.timeout, []⟩, line)
  | .read _ => some (⟨.success, [ControlCode.ack]⟩, line)
  | .writeByte code => some (⟨.success, []⟩, line ++ [.byte code, .silence])
  | .write bytes => some (⟨.success, []⟩, line ++ bytes.map .byte)
  | .readMulti _ _ => none
  | .poll _ => none
  | _ => some (⟨.success, []⟩, line)

/-- A frame on the line: one enquiry, silence, and its bytes. -/
def frameSymbols (frame : Frame) : List Symbol :=
  .byte ControlCode.enq :: .silence :: frame.map .byte

def framesSymbols (frames : List Frame) : List Symbol := frames.flatMap frameSymbols

end Link

namespace Protocol
variable (checksum : List UInt8 → UInt8)

/-- A send over the clean line, whatever count the last one left behind, fills it
with these symbols and answers this. -/
def Transmits (r2 : Nat) (data : List UInt8) (line : List Symbol) (result : Bool) : Prop :=
  ∃ sending, sendMachine.ReachesOn Link.transmit (sendStart checksum data r2, []) (.ended sending, line) ∧
    sending.context.result = result

/-- A receive from this line returns the result and leaves the rest of it. -/
def ReceivesFrom (r1 : Nat) (line : List Symbol) (result : Received (List UInt8)) (rest : List Symbol) : Prop :=
  ∃ receiving, (recvMachine checksum).ReachesOn Link.answer (recvStart checksum r1, line)
      (.ended receiving, rest) ∧ receive receiving.context = result

end Protocol

/-- A command that the M-side CPU writes over the clean line is what the V-side
CPU reads from it. Each side is constructed with the address of the other. -/
def Cpu.Delivers (checksum : List UInt8 → UInt8) (r1 r2 : Nat) (command : CpuCommand) (data : List UInt8) : Prop :=
  ∃ line received, Protocol.Transmits checksum r2 (writeData kAddressVCPU command data) line true ∧
    Protocol.ReceivesFrom checksum r1 line received [] ∧ read kAddressMCPU received = .message (command, data)

end CpuCom.Uart
