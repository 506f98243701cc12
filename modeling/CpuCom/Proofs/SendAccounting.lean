import CpuCom.Interaction.Passes
import CpuCom.Interaction.Script
import CpuCom.Proofs.SendSteps

/-! What the attempt counter of a send counts: every retry, whichever state and
whichever frame it comes from, and through the retries the port
re-initialisations. -/

namespace CpuCom.Uart.Protocol
open Interaction FiniteStateMachine

abbrev SendPass := Pass SendState Unit Call Response Sending

def closes (trace : List (Call × Response)) : Nat := trace.countP (·.1 = .close)

def opens (trace : List (Call × Response)) : Nat := trace.countP (·.1 = .open)

/-- Whenever the port is closed, the next call opens it again. -/
def Reopens (trace : List (Call × Response)) : Prop :=
  ∀ first closed rest, trace = first ++ (.close, closed) :: rest → ∃ opened left, rest = (.open, opened) :: left

@[simp] theorem closes_append (first rest : List (Call × Response)) :
    closes (first ++ rest) = closes first + closes rest := List.countP_append

@[simp] theorem opens_append (first rest : List (Call × Response)) :
    opens (first ++ rest) = opens first + opens rest := List.countP_append

theorem Reopens.append {trace calls : List (Call × Response)} (one : Reopens trace) (two : Reopens calls) :
    Reopens (trace ++ calls) := by
  intro first closed rest split
  rcases List.append_eq_append_iff.mp split with ⟨between, rfl, later⟩ | ⟨between, rfl, earlier⟩
  · exact two between closed rest later
  · cases between with
    | nil => exact two [] closed rest earlier.symm
    | cons call between =>
      rw [List.cons_append, List.cons.injEq] at earlier
      obtain ⟨rfl, rfl⟩ := earlier
      obtain ⟨opened, left, rfl⟩ := one first closed between rfl
      exact ⟨opened, left ++ calls, rfl⟩

theorem reopens_of_none {calls : List (Call × Response)} (none : closes calls = 0) : Reopens calls := by
  intro first closed rest split
  have closing := List.countP_eq_zero.mp none (.close, closed) (by simp [split])
  simp at closing

theorem reopens_reinit (unlocked closed opened : Response) :
    Reopens [(.unlock, unlocked), (.close, closed), (.open, opened)] := by
  intro first found rest split
  rcases first with _ | ⟨call, _ | ⟨other, _ | ⟨third, first⟩⟩⟩
  · simp at split
  · simp only [List.cons_append, List.nil_append, List.cons.injEq] at split
    exact ⟨opened, [], split.2.2.symm⟩
  · simp at split
  · simp at split

structure Reinits (count : Nat) (trace : List (Call × Response)) : Prop where
  closed : closes trace = count
  opened : opens trace = count
  together : Reopens trace

theorem Reinits.quiet {count : Nat} {trace calls : List (Call × Response)} (reinits : Reinits count trace)
    (noClose : closes calls = 0) (noOpen : opens calls = 0) : Reinits count (trace ++ calls) where
  closed := by rw [closes_append, reinits.closed, noClose, Nat.add_zero]
  opened := by rw [opens_append, reinits.opened, noOpen, Nat.add_zero]
  together := reinits.together.append (reopens_of_none noClose)

theorem Reinits.again {count : Nat} {trace : List (Call × Response)} (reinits : Reinits count trace)
    (unlocked closed opened : Response) :
    Reinits (count + 1) (trace ++ [(.unlock, unlocked), (.close, closed), (.open, opened)]) where
  closed := by
    rw [closes_append, reinits.closed]
    rfl
  opened := by
    rw [opens_append, reinits.opened]
    rfl
  together := reinits.together.append (reopens_reinit unlocked closed opened)

/-- The counter of a send tells its retries, and a sixth of them has reopened the
port. The last retry gives up before it would. -/
structure Counted (sending : Sending) (passes : List SendPass) : Prop where
  atMost : sending.r2 ≤ kMaxNumberOfSendAttempts
  retries : sending.r2 = visits .retry passes
  reinits : Reinits (min sending.r2 (kMaxNumberOfSendAttempts - 1) / kSendAttemptsForPortReinit) (callsOf passes)

variable {sending : Sending} {passes : List SendPass}

theorem Counted.pass {state : SendState} {later : Sending} {calls : List (Call × Response)} {after : SendConfig}
    (counted : Counted sending passes) (notRetry : state ≠ .retry) (same : later.r2 = sending.r2)
    (noClose : closes calls = 0) (noOpen : opens calls = 0) :
    Counted later (passes ++ [⟨.running state () sending, calls, after⟩]) where
  atMost := same ▸ counted.atMost
  retries := by rw [visits_append, visits_elsewhere notRetry, same, counted.retries, Nat.add_zero]
  reinits := by
    rw [callsOf_append, callsOf_singleton, same]
    exact counted.reinits.quiet noClose noOpen

/-- A retry is counted, and the sixth after the last re-initialisation makes the
next one unless it is the last. -/
theorem Counted.retry {calls : List (Call × Response)} {after : SendConfig} (counted : Counted sending passes)
    (left : sending.r2 < kMaxNumberOfSendAttempts)
    (reinits : Reinits (min (sending.r2 + 1) (kMaxNumberOfSendAttempts - 1) / kSendAttemptsForPortReinit)
      (callsOf passes ++ calls)) :
    Counted { sending with r2 := sending.r2 + 1 } (passes ++ [⟨.running .retry () sending, calls, after⟩]) where
  atMost := left
  retries := by rw [visits_append, visits_here, counted.retries]
  reinits := by
    rw [callsOf_append, callsOf_singleton]
    exact reinits

/-- Neither a retry that is not the sixth nor the last one touches the port. -/
theorem Counted.retry_open {calls : List (Call × Response)} {after : SendConfig} (counted : Counted sending passes)
    (left : sending.r2 < kMaxNumberOfSendAttempts)
    (keeps : (sending.r2 + 1) % kSendAttemptsForPortReinit ≠ 0 ∨ sending.r2 + 1 = kMaxNumberOfSendAttempts)
    (noClose : closes calls = 0) (noOpen : opens calls = 0) :
    Counted { sending with r2 := sending.r2 + 1 } (passes ++ [⟨.running .retry () sending, calls, after⟩]) := by
  have same : min (sending.r2 + 1) (kMaxNumberOfSendAttempts - 1) / kSendAttemptsForPortReinit =
      min sending.r2 (kMaxNumberOfSendAttempts - 1) / kSendAttemptsForPortReinit := by
    unfold kMaxNumberOfSendAttempts kSendAttemptsForPortReinit at *
    omega
  refine counted.retry left ?_
  rw [same]
  exact counted.reinits.quiet noClose noOpen

/-- The account of a run in each state: only a failed send has used all its attempts. -/
def SendAccount (passes : List SendPass) : SendConfig → Prop
  | .running .idle _ _ => passes = []
  | .running .error _ sending => Counted sending passes ∧ sending.r2 = kMaxNumberOfSendAttempts
  | .running .end _ sending =>
      Counted sending passes ∧ (sending.context.result = false ↔ sending.r2 = kMaxNumberOfSendAttempts)
  | .ended sending =>
      Counted sending passes ∧ (sending.context.result = false ↔ sending.r2 = kMaxNumberOfSendAttempts)
  | .running _ _ sending => Counted sending passes ∧ sending.r2 < kMaxNumberOfSendAttempts

theorem SendAccount.step {config after : SendConfig} {calls : List (Call × Response)}
    (account : SendAccount passes config)
    (step : sendMachine.Step config calls after) : SendAccount (passes ++ [⟨config, calls, after⟩]) after := by
  obtain ⟨state, sending, rfl, move⟩ := send_move step
  cases move with
  | idle =>
    cases account
    have fresh : Counted { sending with r2 := 0 }
        [⟨.running .idle () sending, [], .running .enquiry () { sending with r2 := 0 }⟩] := by
      refine ⟨Nat.zero_le _, (visits_elsewhere SendState.noConfusion).symm, ?_⟩
      have none : min 0 (kMaxNumberOfSendAttempts - 1) / kSendAttemptsForPortReinit = 0 := by decide
      change Reinits (min 0 (kMaxNumberOfSendAttempts - 1) / kSendAttemptsForPortReinit) []
      rw [none]
      exact ⟨rfl, rfl, reopens_of_none rfl⟩
    exact ⟨fresh, Nat.succ_pos _⟩
  | retry unlocked left kept =>
    obtain ⟨counted, _⟩ := account
    exact ⟨counted.retry_open (by omega) (.inl kept) rfl rfl, left⟩
  | reinit unlocked closed opened left sixth =>
    obtain ⟨counted, _⟩ := account
    refine ⟨counted.retry (by omega) ?_, left⟩
    have next : min (sending.r2 + 1) (kMaxNumberOfSendAttempts - 1) / kSendAttemptsForPortReinit =
        min sending.r2 (kMaxNumberOfSendAttempts - 1) / kSendAttemptsForPortReinit + 1 := by
      unfold kMaxNumberOfSendAttempts kSendAttemptsForPortReinit at *
      omega
    rw [next]
    exact counted.reinits.again unlocked closed opened
  | exhausted spent =>
    obtain ⟨counted, left⟩ := account
    have full : sending.r2 + 1 = kMaxNumberOfSendAttempts := by omega
    exact ⟨counted.retry_open left (.inr full) rfl rfl, full⟩
  | completed last =>
    obtain ⟨counted, left⟩ := account
    refine ⟨counted.pass SendState.noConfusion rfl rfl rfl, ?_⟩
    simpa using Nat.ne_of_lt left
  | error =>
    obtain ⟨counted, full⟩ := account
    exact ⟨counted.pass SendState.noConfusion rfl rfl rfl, by simpa using full⟩
  | finish unlocked => exact ⟨account.1.pass SendState.noConfusion rfl rfl rfl, account.2⟩
  | _ => exact ⟨account.1.pass SendState.noConfusion rfl rfl rfl, account.2⟩

/-- The counter of a send that has ended decides its result, and tells how often
it was retried and the port reopened. -/
theorem send_accounted {checksum : List UInt8 → UInt8} {data : List UInt8} {r2 : Nat} {sending : Sending}
    {passes : List SendPass}
    (path : sendMachine.Path (fun _ _ _ => True) (sendStart checksum data r2) passes (.ended sending)) :
    sending.r2 ≤ 240 ∧ (sending.context.result = false ↔ sending.r2 = 240) ∧
      (sending.context.result = true ↔ sending.r2 < 240) ∧ sending.r2 = visits .retry passes ∧
      closes (callsOf passes) = min sending.r2 239 / 6 ∧ opens (callsOf passes) = min sending.r2 239 / 6 ∧
      Reopens (callsOf passes) := by
  have account : SendAccount passes (.ended sending) :=
    path.invariant rfl fun _ _ _ _ kept step _ => kept.step step
  obtain ⟨counted, decided⟩ := account
  refine ⟨counted.atMost, decided, ?_, counted.retries, counted.reinits.closed, counted.reinits.opened,
    counted.reinits.together⟩
  rw [← Bool.not_eq_false, decided]
  exact (Nat.lt_iff_le_and_ne.trans (and_iff_right counted.atMost)).symm

/-- A peer that leaves six enquiries unanswered and then takes the message. -/
theorem unanswered_accounted : ∃ passes sending,
    sendMachine.Path (fun _ _ _ => True) (sendStart List.sum [1, 2, 3] 0) passes (.ended sending) ∧ sending.r2 = 6 ∧
      sending.r2 ≤ 240 ∧ (sending.context.result = false ↔ sending.r2 = 240) ∧
      (sending.context.result = true ↔ sending.r2 < 240) ∧ sending.r2 = visits .retry passes ∧
      closes (callsOf passes) = min sending.r2 239 / 6 ∧ opens (callsOf passes) = min sending.r2 239 / 6 ∧
      Reopens (callsOf passes) := by
  let ok : Response := ⟨.success, []⟩
  let silent : Response := ⟨.timeout, []⟩
  let ack : Response := ⟨.success, [ControlCode.ack]⟩
  let unanswered := [ok, silent, ok, silent, ok]
  have ran : (sendMachine.script 32 (sendStart List.sum [1, 2, 3] 0) ((List.replicate 6 unanswered).flatten ++
      [ok, ok, ok, silent, ok, ack, ok, ack, ok])).map (fun result => result.1) =
        some (.ended ⟨⟨[[2, 5, 1, 2, 3, 3, 14]], 0, true⟩, 6⟩) := by
    decide +kernel
  obtain ⟨⟨config, trace, rest⟩, scripted, rfl⟩ := Option.map_eq_some_iff.mp ran
  obtain ⟨passes, path, _⟩ := (runs_of_script scripted).path
  exact ⟨passes, _, path, rfl, send_accounted path⟩

end CpuCom.Uart.Protocol
