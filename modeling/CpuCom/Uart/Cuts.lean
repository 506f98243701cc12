import CpuCom.Uart.Link

/-! A line that cuts frames off. The receiver misses the end of such a frame and denies
it, and the sender, who reads the denial, writes the frame again. -/

namespace CpuCom.Uart
open Interaction

namespace Link

/-- A frame without its last byte and as many more as are lost with it. -/
def cut (lost : Nat) (bytes : List UInt8) : List UInt8 := bytes.take (bytes.length - 1 - lost)

/-- The line that a sender has filled, what happens to its next frames, and whether the
last one has been cut off. Frames beyond the plan arrive whole. -/
structure Cutting where
  line : List Symbol
  plan : List (Option Nat)
  denied : Bool

/-- The sender's device: as `transmit`, but the peer denies a frame that is cut off. -/
def transmitCut (device : Cutting) : Call → Option (Response × Cutting)
  | .read .immediate => some (⟨.timeout, []⟩, device)
  | .read _ =>
      some (⟨.success, [if device.denied then ControlCode.nak else ControlCode.ack]⟩, { device with denied := false })
  | .writeByte code => some (⟨.success, []⟩, { device with line := device.line ++ [.byte code, .silence] })
  | .write bytes =>
      match device.plan with
      | some lost :: plan =>
          some (⟨.success, []⟩, ⟨device.line ++ (cut lost bytes).map .byte ++ [.silence], plan, true⟩)
      | plan => some (⟨.success, []⟩, ⟨device.line ++ bytes.map .byte, plan.tail, false⟩)
  | .readMulti _ _ => none
  | .poll _ => none
  | _ => some (⟨.success, []⟩, device)

/-- The frames that are cut off until this many have arrived whole. -/
def cuts : Nat → List (Option Nat) → Nat
  | _, [] => 0
  | 0, _ :: _ => 0
  | count + 1, some _ :: plan => cuts (count + 1) plan + 1
  | count + 1, none :: plan => cuts count plan

end Link

namespace Protocol
variable (checksum : List UInt8 → UInt8)

/-- A send over such a line fills it with these symbols and answers this. -/
def TransmitsCut (r2 : Nat) (plan : List (Option Nat)) (data : List UInt8) (line : List Symbol) (result : Bool) :
    Prop :=
  ∃ sending device, sendMachine.ReachesOn Link.transmitCut (sendStart checksum data r2, ⟨[], plan, false⟩)
    (.ended sending, device) ∧ device.line = line ∧ sending.context.result = result

end Protocol

namespace Cpu

/-- A command that is written, and what the line does to its frames. -/
structure Written where
  command : CpuCommand
  data : List UInt8
  plan : List (Option Nat)

/-- A CPU of this address writes the commands one after the other, and each write succeeds. -/
inductive Streams (checksum : List UInt8 → UInt8) (address : UInt8) : List Written → List Symbol → Prop where
  | none : Streams checksum address [] []
  | next {r2 written line rest last}
      (sent : Protocol.TransmitsCut checksum r2 written.plan (writeData address written.command written.data) line true)
      (more : Streams checksum address rest last) : Streams checksum address (written :: rest) (line ++ last)

/-- What the CPU on the other side reads of a command. A divided one carries a flag in
its code bit, so that the filter drops it. -/
def Written.answer (written : Written) : Protocol.Received (CpuCommand × List UInt8) :=
  if written.data.length ≤ kMaxActualDataLength then .message (written.command, written.data) else .nothing

/-- The addresses with which the two CPUs of a line are constructed. -/
inductive Paired : UInt8 → UInt8 → Prop where
  | toVCPU : Paired kAddressVCPU kAddressMCPU
  | toMCPU : Paired kAddressMCPU kAddressVCPU

end Cpu
end CpuCom.Uart
