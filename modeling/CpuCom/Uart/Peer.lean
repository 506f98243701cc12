import CpuCom.Uart.Link

/-! A peer that sends message after message, and the receives from the line that it
fills. What the peer reads as answers is arbitrary, so that any acknowledgement may
be lost on its way back. -/

namespace CpuCom.Uart
open Interaction

namespace Link

/-- What a call of a sender puts on the line. The line is silent around a control
code, longer than a receiver waits, and a write that fails puts nothing. -/
def emitted : Call × Response → List Symbol
  | (.writeByte code, reply) => if reply.result = .success then [.silence, .byte code, .silence] else []
  | (.write bytes, reply) => if reply.result = .success then bytes.map .byte else []
  | _ => []

def filled (calls : List (Call × Response)) : List Symbol := calls.flatMap emitted

/-- A call of a sender on a line that loses acknowledgements and nothing else. The
receiver acknowledges each enquiry and each frame. -/
def Lossy : Call × Response → Prop
  | (.read timeout, reply) =>
      reply.result = .timeout ∨ timeout = kTimeout3 ∧ reply = ⟨.success, [ControlCode.ack]⟩
  | (_, reply) => reply.result = .success

end Link

namespace Protocol
variable (checksum : List UInt8 → UInt8)

/-- A peer that has been asked to send these messages one after the other has made
these calls. Each send has run to its end, with whatever result, except perhaps the last. -/
inductive Peer : List (List UInt8) → List (Call × Response) → Prop where
  | idle : Peer [] []
  | sending {data r2 calls config} (run : sendMachine.Runs (sendStart checksum data r2) calls config) :
      Peer [data] calls
  | sent {data r2 calls sending messages more}
      (run : sendMachine.Runs (sendStart checksum data r2) calls (.ended sending))
      (rest : Peer messages more) : Peer (data :: messages) (calls ++ more)

/-- Receives from a line one after the other, with their results. -/
inductive Receives : List Symbol → List (Received (List UInt8)) → List Symbol → Prop where
  | none {line} : Receives line [] line
  | next {r1 line result rest results last} (received : ReceivesFrom checksum r1 line result rest)
      (more : Receives rest results last) : Receives line (result :: results) last

/-- A message as a receiver returns it: the code bit of a divided message carries
the flag of its frames. -/
def flagged (data : List UInt8) : List UInt8 :=
  if kMaxExtendedLengthFrameLength - kFrameFooterLength < data.length then data.set 2 (data.getD 2 0 ||| 0x02) else data

end Protocol
end CpuCom.Uart
