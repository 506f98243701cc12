import CpuCom.Interaction.Script
import CpuCom.Proofs.SendSteps

/-! How often a send writes an enquiry. Every enquiry ends in a retry, which is
counted, in a frame, or in an answer by which the peer puts the sender off. -/

namespace CpuCom.Uart
open Interaction

/-- The answer of a peer that is busy or has sent an enquiry at the same time. -/
def Response.Defers (response : Response) : Prop :=
  response.result = .success ∧ (response.byte = ControlCode.nak ∨ response.byte = ControlCode.enq)

instance : DecidablePred Response.Defers := fun _ => inferInstanceAs (Decidable (_ ∧ _))

namespace Protocol
open FiniteStateMachine

def enquiries (trace : List (Call × Response)) : Nat := trace.countP (·.1 = .writeByte ControlCode.enq)

def asked : Bool → List (Call × Response) → Bool
  | last, [] => last
  | _, (request, _) :: calls => asked (request = .writeByte ControlCode.enq) calls

def deferrals : Bool → List (Call × Response) → Nat
  | _, [] => 0
  | last, (request, reply) :: calls =>
      (if last = true ∧ request = .read kTimeout3 ∧ reply.Defers then 1 else 0) +
        deferrals (request = .writeByte ControlCode.enq) calls

theorem enquiries_append (first rest : List (Call × Response)) :
    enquiries (first ++ rest) = enquiries first + enquiries rest := List.countP_append

theorem asked_append (last : Bool) (first rest : List (Call × Response)) :
    asked last (first ++ rest) = asked (asked last first) rest := by
  induction first generalizing last with
  | nil => rfl
  | cons call first ih => exact ih _

theorem deferrals_append (last : Bool) (first rest : List (Call × Response)) :
    deferrals last (first ++ rest) = deferrals last first + deferrals (asked last first) rest := by
  induction first generalizing last with
  | nil => exact (Nat.zero_add _).symm
  | cons call first ih => rw [List.cons_append, deferrals, deferrals, ih, asked, Nat.add_assoc]

/-- The enquiries that are not answered by a deferral, up to a number. -/
def Within (count : Nat) (trace : List (Call × Response)) : Prop := enquiries trace ≤ count + deferrals false trace

theorem Within.quiet {count : Nat} {trace calls : List (Call × Response)} (within : Within count trace)
    (none : enquiries calls = 0) : Within count (trace ++ calls) := by
  unfold Within at *
  rw [enquiries_append, deferrals_append, none]
  omega

theorem Within.mono {count more : Nat} {trace : List (Call × Response)} (within : Within count trace)
    (le : count ≤ more) : Within more trace := Nat.le_trans within (Nat.add_le_add_right le _)

theorem Within.enquired {count : Nat} {trace : List (Call × Response)} {silent written : Response}
    (within : Within count trace) :
    Within (count + 1) (trace ++ [(.read .immediate, silent), (.writeByte ControlCode.enq, written)]) := by
  unfold Within at *
  rw [enquiries_append, deferrals_append]
  have one : enquiries [(.read .immediate, silent), (.writeByte ControlCode.enq, written)] = 1 := rfl
  omega

theorem Within.deferred {count : Nat} {trace : List (Call × Response)} {reply : Response}
    (within : Within (count + 1) trace) (asked : asked false trace = true) (defers : reply.Defers) :
    Within count (trace ++ [(.read kTimeout3, reply)]) := by
  unfold Within at *
  rw [enquiries_append, deferrals_append, asked]
  have none : enquiries [(.read kTimeout3, reply)] = 0 := rfl
  have one : deferrals true [(.read kTimeout3, reply)] = 1 := by simp [deferrals, defers]
  omega

/-- A send that has attempts left has written an enquiry for each retry and each
frame before, and perhaps one for the attempt under way. -/
structure Trying (total opened : Nat) (sending : Sending) (trace : List (Call × Response)) : Prop where
  left : sending.r2 < kMaxNumberOfSendAttempts
  inside : sending.context.currentIndex ≤ total
  within : Within (sending.r2 + sending.context.currentIndex + opened) trace

theorem Trying.quiet {total opened : Nat} {sending : Sending} {trace calls : List (Call × Response)}
    (trying : Trying total opened sending trace) (none : enquiries calls = 0) :
    Trying total opened sending (trace ++ calls) :=
  { trying with within := trying.within.quiet none }

theorem Trying.open {total : Nat} {sending : Sending} {trace : List (Call × Response)}
    (trying : Trying total 0 sending trace) : Trying total 1 sending trace :=
  { trying with within := trying.within.mono (Nat.le_succ _) }

def Counts (total : Nat) (trace : List (Call × Response)) : SendConfig → Prop
  | .running .idle _ sending => sending.context.currentIndex = 0 ∧ trace = []
  | .running .enquiry _ sending => Trying total 0 sending trace
  | .running .reenquiry _ sending => Trying total 0 sending trace
  | .running .ack _ sending => Trying total 1 sending trace ∧ asked false trace = true
  | .running .frame _ sending => Trying total 1 sending trace
  | .running .ack2 _ sending => Trying total 1 sending trace ∧ sending.context.currentIndex < total
  | .running .retry _ sending => Trying total 1 sending trace
  | .running .nak _ sending => Trying total 0 sending trace
  | .running .wait _ sending => Trying total 0 sending trace
  | .running .done _ sending => Trying total 1 sending trace ∧ sending.context.currentIndex < total
  | _ => Within (kMaxNumberOfSendAttempts + total) trace

variable {total : Nat} {trace : List (Call × Response)}

theorem Trying.retried {sending : Sending} (trying : Trying total 1 sending trace) :
    Within (sending.r2 + 1 + sending.context.currentIndex) trace :=
  trying.within.mono (by omega)

theorem Counts.step {config after : SendConfig} {calls : List (Call × Response)}
    (sized : config.data.context.frames.length = total) (counts : Counts total trace config)
    (step : sendMachine.Step config calls after) : Counts total (trace ++ calls) after := by
  obtain ⟨state, sending, rfl, move⟩ := send_move step
  change sending.context.frames.length = total at sized
  cases move with
  | idle =>
    obtain ⟨first, rfl⟩ := counts
    refine ⟨Nat.succ_pos _, ?_, Nat.zero_le _⟩
    change sending.context.currentIndex ≤ total
    omega
  | lock locked => exact counts.quiet rfl
  | drain arrived => exact counts.quiet rfl
  | drainFailed failed => exact counts.open.quiet rfl
  | enquire quiet accepted =>
    refine ⟨{ counts with within := counts.within.enquired }, ?_⟩
    rw [asked_append]
    rfl
  | enquireFailed quiet refused => exact { counts with within := counts.within.enquired }
  | admitted acknowledged => exact counts.1.quiet rfl
  | busy arrived busy => exact { counts.1 with within := counts.1.within.deferred counts.2 ⟨arrived, .inl busy⟩ }
  | collided arrived enquiry =>
    exact { counts.1 with within := counts.1.within.deferred counts.2 ⟨arrived, .inr enquiry⟩ }
  | unanswered denied => exact counts.1.quiet rfl
  | write found accepted =>
    have shorter := (List.getElem?_eq_some_iff.mp found).1
    exact ⟨counts.quiet rfl, sized ▸ shorter⟩
  | writeFailed found refused => exact counts.quiet rfl
  | confirmed acknowledged => exact ⟨counts.1.quiet rfl, counts.2⟩
  | unconfirmed denied => exact counts.1.quiet rfl
  | retry unlocked left kept => exact ⟨left, counts.inside, (counts.quiet rfl).retried⟩
  | reinit unlocked closed opened left sixth => exact ⟨left, counts.inside, (counts.quiet rfl).retried⟩
  | exhausted spent =>
    have inside := counts.inside
    have left := counts.left
    exact (counts.within.quiet rfl).mono (by omega)
  | nak accepted => exact counts.quiet rfl
  | nakFailed refused => exact counts.open.quiet rfl
  | wait unlocked => exact counts.quiet rfl
  | nextFrame more =>
    obtain ⟨trying, inside⟩ := counts
    exact ⟨trying.left, inside, trying.within.quiet rfl⟩
  | completed last =>
    obtain ⟨trying, inside⟩ := counts
    have left := trying.left
    exact (trying.within.quiet rfl).mono (by omega)
  | error => exact Within.quiet counts rfl
  | finish unlocked => exact Within.quiet counts rfl

theorem send_frames {config after : SendConfig} {calls : List (Call × Response)}
    (step : sendMachine.Step config calls after) : after.data.context.frames = config.data.context.frames := by
  obtain ⟨state, sending, rfl, move⟩ := send_move step
  cases move <;> rfl

theorem Trying.bounded {sending : Sending} {opened : Nat} (trying : Trying total opened sending trace)
    (one : opened ≤ 1) :
    Within (kMaxNumberOfSendAttempts + total) trace := by
  have left := trying.left
  have inside := trying.inside
  exact trying.within.mono (by omega)

theorem Counts.bounded {config : SendConfig} (counts : Counts total trace config) :
    Within (kMaxNumberOfSendAttempts + total) trace := by
  cases config with
  | ended sending => exact counts
  | running state loop sending =>
    cases state with
    | idle =>
      obtain ⟨_, rfl⟩ := counts
      exact Nat.zero_le _
    | enquiry => exact Trying.bounded counts (Nat.zero_le _)
    | reenquiry => exact Trying.bounded counts (Nat.zero_le _)
    | nak => exact Trying.bounded counts (Nat.zero_le _)
    | wait => exact Trying.bounded counts (Nat.zero_le _)
    | frame => exact Trying.bounded counts (Nat.le_refl _)
    | retry => exact Trying.bounded counts (Nat.le_refl _)
    | ack => exact counts.1.bounded (Nat.le_refl _)
    | ack2 => exact counts.1.bounded (Nat.le_refl _)
    | done => exact counts.1.bounded (Nat.le_refl _)
    | error => exact counts
    | «end» => exact counts

theorem counts_run {start config : SendConfig} (run : sendMachine.Runs start trace config)
    (sized : start.data.context.frames.length = total) (counts : Counts total [] start) :
    config.data.context.frames.length = total ∧ Counts total trace config := by
  apply run.invariant
  · exact ⟨sized, counts⟩
  · intro trace middle rest after kept step _
    exact ⟨(congrArg List.length (send_frames step)).trans kept.1, kept.2.step kept.1 step⟩

/-- The enquiries of a send are at most the attempts and the frames, and one more
for each that the peer has put off. -/
theorem enquiries_bounded {checksum : List UInt8 → UInt8} {data : List UInt8} {r2 : Nat} {config : SendConfig}
    (run : sendMachine.Runs (sendStart checksum data r2) trace config) :
    enquiries trace ≤ kMaxNumberOfSendAttempts + (prepareFrames checksum data).length + deferrals false trace := by
  exact (counts_run run rfl ⟨rfl, rfl⟩).2.bounded

/-- A peer that is busy and then takes the message. -/
theorem busy_once_bounded : ∃ trace sending, sendMachine.Runs (sendStart List.sum [1, 2, 3] 0) trace (.ended sending) ∧
    deferrals false trace = 1 ∧
    enquiries trace ≤ kMaxNumberOfSendAttempts + (prepareFrames List.sum [1, 2, 3]).length + deferrals false trace := by
  let ok : Response := ⟨.success, []⟩
  let silent : Response := ⟨.timeout, []⟩
  let ack : Response := ⟨.success, [ControlCode.ack]⟩
  let busy : Response := ⟨.success, [ControlCode.nak]⟩
  have ran : sendMachine.script 10 (sendStart List.sum [1, 2, 3] 0)
    [ok, silent, ok, busy, silent, ok, ack, ok, ack, ok] =
      some (.ended ⟨⟨[[2, 5, 1, 2, 3, 3, 14]], 0, true⟩, 0⟩, [(.lock, ok), (.read .immediate, silent),
        (.writeByte ControlCode.enq, ok), (.read kTimeout3, busy), (.read .immediate, silent),
        (.writeByte ControlCode.enq, ok), (.read kTimeout3, ack), (.write [2, 5, 1, 2, 3, 3, 14], ok),
        (.read kTimeout3, ack), (.unlock, ok)], []) := by
    decide +kernel
  have run := runs_of_script ran
  exact ⟨_, _, run, rfl, enquiries_bounded run⟩

private theorem busy_runs (sending : Sending) (count : Nat) :
    ∃ trace, sendMachine.Runs (.running .reenquiry () sending) trace (.running .reenquiry () sending) ∧
      enquiries trace = count := by
  induction count with
  | zero => exact ⟨[], .refl _, rfl⟩
  | succ count ih =>
    obtain ⟨trace, run, counted⟩ := ih
    let busy : Response := ⟨.success, [ControlCode.nak]⟩
    have lap : sendMachine.script 2 (.running .reenquiry () sending) [⟨.timeout, []⟩, ⟨.success, []⟩, busy] =
        some (.running .reenquiry () sending, [(.read .immediate, ⟨.timeout, []⟩),
          (.writeByte ControlCode.enq, ⟨.success, []⟩), (.read kTimeout3, busy)], []) := rfl
    refine ⟨_, run.append (runs_of_script lap), ?_⟩
    rw [enquiries_append, counted]
    rfl

theorem busy_unbounded :
    ¬ ∀ data r2 trace config, sendMachine.Runs (sendStart List.sum data r2) trace config →
      enquiries trace ≤ kMaxNumberOfSendAttempts + (prepareFrames List.sum data).length := by
  intro claimed
  have began : sendMachine.script 2 (sendStart List.sum [1, 2, 3] 0) [⟨.success, []⟩] =
      some (.running .reenquiry () ⟨sendContext List.sum [1, 2, 3], 0⟩, [(.lock, ⟨.success, []⟩)], []) := rfl
  obtain ⟨trace, run, counted⟩ := busy_runs ⟨sendContext List.sum [1, 2, 3], 0⟩ 242
  have bounded := claimed _ _ _ _ ((runs_of_script began).append run)
  rw [enquiries_append, counted] at bounded
  exact absurd bounded (by decide +kernel)

end Protocol
end CpuCom.Uart
