import CpuCom.Proofs.SendSteps
import CpuCom.Uart.Peer

/-! What arrives from a peer. It writes a frame only after an enquiry, so that the
line falls into enquiries with their frames, enquiries without a frame, and denials. -/

namespace CpuCom.Uart
open Interaction

inductive Arrival where
  | enquiry
  | denial
  | frame (bytes : Frame)

def Arrival.symbols : Arrival → List Symbol
  | .enquiry => [.silence, .byte ControlCode.enq, .silence]
  | .denial => [.silence, .byte ControlCode.nak, .silence]
  | .frame bytes => .silence :: Link.frameSymbols bytes

inductive Sent where
  | code (byte : UInt8)
  | frame (bytes : Frame)

namespace Sent

def symbols : Sent → List Symbol
  | .code byte => [.silence, .byte byte, .silence]
  | .frame bytes => bytes.map .byte

def ofCall : Call × Response → Option Sent
  | (.writeByte byte, reply) => if reply.result = .success then some (.code byte) else none
  | (.write bytes, reply) => if reply.result = .success then some (.frame bytes) else none
  | _ => none

/-- A frame belongs to the code before it. -/
def arrivals : List Sent → List Arrival
  | [] => []
  | .code _ :: .frame bytes :: rest => .frame bytes :: arrivals rest
  | .code byte :: rest => (if byte = ControlCode.enq then .enquiry else .denial) :: arrivals rest
  | .frame _ :: rest => arrivals rest

/-- Every frame stands behind an enquiry; the flag tells that one has just been written. -/
def WellSpoken : Bool → List Sent → Prop
  | _, [] => True
  | _, .code byte :: rest => (byte = ControlCode.enq ∨ byte = ControlCode.nak) ∧
      WellSpoken (byte = ControlCode.enq) rest
  | enquired, .frame _ :: rest => enquired = true ∧ WellSpoken false rest

theorem WellSpoken.after {enquired : Bool} {sent : List Sent} (spoken : WellSpoken false sent) :
    WellSpoken enquired sent := by
  match sent, spoken with
  | [], _ => trivial
  | .code byte :: rest, spoken => exact spoken
  | .frame bytes :: rest, spoken => exact absurd spoken.1 Bool.false_ne_true

theorem symbols_arrivals {sent : List Sent} (spoken : WellSpoken false sent) :
    (arrivals sent).flatMap Arrival.symbols = sent.flatMap symbols := by
  fun_induction arrivals sent with
  | case1 => rfl
  | case2 byte bytes rest ih =>
    obtain ⟨_, enquired, later⟩ := spoken
    obtain rfl := of_decide_eq_true enquired
    rw [List.flatMap_cons, ih later]
    rfl
  | case3 byte rest other ih =>
    obtain ⟨known, later⟩ := spoken
    have unanswered : WellSpoken false rest := by
      match rest, later with
      | [], _ => trivial
      | .code next :: rest, later => exact later
      | .frame bytes :: rest, _ => exact absurd rfl (other bytes rest)
    rw [List.flatMap_cons, ih unanswered, List.flatMap_cons]
    rcases known with rfl | rfl
    · rfl
    · rfl
  | case4 bytes rest ih => exact absurd spoken.1 Bool.false_ne_true

end Sent

def sent (calls : List (Call × Response)) : List Sent := calls.filterMap Sent.ofCall

/-- The arrivals from a peer that has made these calls. -/
def arrivals (calls : List (Call × Response)) : List Arrival := Sent.arrivals (sent calls)

def Arrival.line (arrivals : List Arrival) : List Symbol := arrivals.flatMap symbols

theorem filled_sent (calls : List (Call × Response)) : Link.filled calls = (sent calls).flatMap Sent.symbols := by
  induction calls with
  | nil => rfl
  | cons call calls ih =>
    unfold sent Link.filled at *
    rw [List.flatMap_cons, ih]
    obtain ⟨request, reply⟩ := call
    cases request with
    | writeByte code =>
      by_cases accepted : reply.result = .success <;>
        simp [Sent.ofCall, Link.emitted, Sent.symbols, accepted]
    | write bytes =>
      by_cases accepted : reply.result = .success <;>
        simp [Sent.ofCall, Link.emitted, Sent.symbols, accepted]
    | _ => rfl

namespace Protocol

def enquired : SendConfig → Bool
  | .running .ack _ _ => true
  | .running .frame _ _ => true
  | _ => false

private theorem sent_refused {call : Call} {reply : Response} (refused : reply.result ≠ .success) :
    sent [(call, reply)] = [] := by
  cases call with
  | writeByte code => exact List.filterMap_cons_none (if_neg refused)
  | write bytes => exact List.filterMap_cons_none (if_neg refused)
  | _ => rfl

private theorem sent_code {code : UInt8} {reply : Response} (accepted : reply.result = .success) :
    sent [(.writeByte code, reply)] = [.code code] :=
  List.filterMap_cons_some (if_pos accepted)

private theorem sent_frame {bytes : Frame} {reply : Response} (accepted : reply.result = .success) :
    sent [(.write bytes, reply)] = [.frame bytes] :=
  List.filterMap_cons_some (if_pos accepted)

theorem wellSpoken_move {state : SendState} {sending : Sending} {calls : List (Call × Response)} {after : SendConfig}
    (move : SendMove sending state calls after) (more : List Sent) (spoken : Sent.WellSpoken (enquired after) more) :
    Sent.WellSpoken (enquired (.running state () sending)) (sent calls ++ more) := by
  cases move with
  | enquire quiet accepted =>
    change Sent.WellSpoken _ (sent [(.writeByte ControlCode.enq, _)] ++ more)
    rw [sent_code accepted]
    exact ⟨.inl rfl, spoken⟩
  | enquireFailed quiet refused =>
    change Sent.WellSpoken _ (sent [(.writeByte ControlCode.enq, _)] ++ more)
    rw [sent_refused refused]
    exact spoken
  | admitted acknowledged => exact spoken
  | write found accepted =>
    rw [sent_frame accepted]
    exact ⟨rfl, spoken⟩
  | writeFailed found refused =>
    rw [sent_refused refused]
    exact Sent.WellSpoken.after spoken
  | nak accepted =>
    rw [sent_code accepted]
    exact ⟨.inr rfl, spoken⟩
  | nakFailed refused =>
    rw [sent_refused refused]
    exact spoken
  | _ => exact Sent.WellSpoken.after spoken

/-- Whatever is written after a run, the run itself has kept to the order. -/
private theorem wellSpoken_run {start config : SendConfig} {calls : List (Call × Response)}
    (run : sendMachine.Runs start calls config) (quiet : enquired start = false) :
    ∀ more, Sent.WellSpoken (enquired config) more → Sent.WellSpoken false (sent calls ++ more) := by
  apply run.invariant
  · intro more spoken
    rwa [quiet] at spoken
  · intro calls middle rest after kept step _ more spoken
    obtain ⟨state, sending, rfl, move⟩ := send_move step
    unfold sent
    rw [List.filterMap_append, List.append_assoc]
    exact kept _ (wellSpoken_move move more spoken)

variable {checksum : List UInt8 → UInt8} {messages : List (List UInt8)} {calls : List (Call × Response)}

theorem peer_wellSpoken (peer : Peer checksum messages calls) : Sent.WellSpoken false (sent calls) := by
  induction peer with
  | idle => trivial
  | sending run =>
    have spoken := wellSpoken_run run rfl [] trivial
    rwa [List.append_nil] at spoken
  | sent run rest ih =>
    unfold CpuCom.Uart.sent
    rw [List.filterMap_append]
    exact wellSpoken_run run rfl _ ih

theorem filled_arrivals (peer : Peer checksum messages calls) : Link.filled calls = Arrival.line (arrivals calls) := by
  rw [filled_sent, Arrival.line, arrivals, Sent.symbols_arrivals (peer_wellSpoken peer)]

end Protocol
end CpuCom.Uart
