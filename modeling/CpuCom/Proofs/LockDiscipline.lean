import CpuCom.Interaction.Script
import CpuCom.Proofs.DeviceAccess
import CpuCom.Proofs.RecvSteps
import CpuCom.Proofs.SendSteps

/-! The lock along one run of each machine. The state tells whether it is held,
until a poll fails: then the receive ends as if it had taken it. -/

namespace CpuCom.Uart.Protocol
open Interaction FiniteStateMachine LockUse

/-- The calls take and give back the lock in turn, use the line only with the lock
held, and leave it free at the end. -/
def KeepsLock {σ β γ : Type} (trace : List (Call × Response)) (config : Config σ β γ) : Prop :=
  ∃ held, afterCalls Call.lineUse false trace = some held ∧ ∀ data, config = .ended data → held = false

theorem send_move_locks {state : SendState} {sending : Sending} {calls : List (Call × Response)} {after : SendConfig}
    (move : SendMove sending state calls after) :
    afterCalls Call.lineUse (sendHolds (.running state () sending)) calls = some (sendHolds after) := by
  cases move <;> rfl

theorem send_locks {start config : SendConfig} {trace : List (Call × Response)}
    (run : sendMachine.Runs start trace config) :
    afterCalls Call.lineUse (sendHolds start) trace = some (sendHolds config) := by
  apply run.invariant
  · rfl
  · intro trace middle rest after held step _
    obtain ⟨state, sending, rfl, move⟩ := send_move step
    rw [afterCalls_append, held]
    exact send_move_locks move

/-- A send takes and gives back the lock in turn, through any retries and frames. -/
theorem send_keeps_lock {checksum : List UInt8 → UInt8} {data : List UInt8} {r2 : Nat} {trace : List (Call × Response)}
    {config : SendConfig} (run : sendMachine.Runs (sendStart checksum data r2) trace config) :
    KeepsLock trace config := by
  refine ⟨_, send_locks run, ?_⟩
  intro sending ended
  rw [ended]
  rfl

/-- A send whose enquiry is not answered is tried once more. -/
theorem retried_keeps_lock : ∃ trace sending, sendMachine.Runs (sendStart List.sum [1, 2, 3] 0) trace (.ended sending) ∧
    (.unlock, ⟨.success, []⟩) ∈ trace ∧ KeepsLock trace (.ended sending : SendConfig) := by
  let ok : Response := ⟨.success, []⟩
  let silent : Response := ⟨.timeout, []⟩
  let ack : Response := ⟨.success, [ControlCode.ack]⟩
  have ran : sendMachine.script 14 (sendStart List.sum [1, 2, 3] 0)
      [ok, silent, ok, silent, ok, ok, silent, ok, ack, ok, ack, ok] =
      some (.ended ⟨⟨[[2, 5, 1, 2, 3, 3, 14]], 0, true⟩, 1⟩, [(.lock, ok), (.read .immediate, silent),
        (.writeByte ControlCode.enq, ok), (.read kTimeout3, silent), (.unlock, ok), (.lock, ok),
          (.read .immediate, silent),
        (.writeByte ControlCode.enq, ok), (.read kTimeout3, ack), (.write [2, 5, 1, 2, 3, 3, 14], ok),
        (.read kTimeout3, ack), (.unlock, ok)], []) := by
    decide +kernel
  have run := runs_of_script ran
  exact ⟨_, _, run, by simp [ok], send_keeps_lock run⟩

section
variable {checksum : List UInt8 → UInt8}

def PollsSucceed (trace : List (Call × Response)) : Prop :=
  ∀ timeout reply, (.poll timeout, reply) ∈ trace → reply.result = .success

theorem pollsSucceed_append {first rest : List (Call × Response)} :
    PollsSucceed (first ++ rest) ↔ PollsSucceed first ∧ PollsSucceed rest := by
  constructor
  · intro succeed
    exact ⟨fun timeout reply member => succeed timeout reply (List.mem_append_left _ member),
      fun timeout reply member => succeed timeout reply (List.mem_append_right _ member)⟩
  · rintro ⟨first, rest⟩ timeout reply member
    rcases List.mem_append.mp member with member | member
    · exact first timeout reply member
    · exact rest timeout reply member

/-- A failed poll is the only step that does not leave the lock as the state says. -/
theorem recv_move_locks {context : RecvContext} {r1 : Nat} {state : RecvState} {loop : Option UInt8}
    {calls : List (Call × Response)} {after : RecvConfig}
    (move : RecvMove checksum context r1 state loop calls after) :
    PollsSucceed calls ∧
        afterCalls Call.lineUse (recvHolds (.running state loop ⟨context, r1⟩)) calls = some (recvHolds after) ∨
      ¬ PollsSucceed calls ∧ after = .running .error none ⟨context, r1⟩ ∧
        afterCalls Call.lineUse (recvHolds (.running state loop ⟨context, r1⟩)) calls = some false := by
  cases move with
  | pollFailed failed =>
    right
    exact ⟨fun succeed => failed (succeed _ _ List.mem_cons_self), rfl, rfl⟩
  | polled locked arrived =>
    left
    refine ⟨?_, rfl⟩
    intro timeout reply member
    simp only [List.mem_cons, Prod.mk.injEq, reduceCtorEq, false_and, List.not_mem_nil, or_self, or_false] at member
    rw [member.2]
    exact arrived
  | rejected reads denied =>
    left
    cases state <;> first | exact reads.elim | exact ⟨by simp [PollsSucceed, frameCall], rfl⟩
  | failed reads notLast failed =>
    left
    cases state <;> first | exact reads.elim | exact ⟨by simp [PollsSucceed, frameCall], rfl⟩
  | _ =>
    left
    exact ⟨by simp [PollsSucceed], rfl⟩

/-- The lock in a run of a receive. After a failed poll it is free, and the end of
the receive gives it back all the same. -/
inductive RecvLocks (trace : List (Call × Response)) : RecvConfig → Prop where
  | kept {config} (succeed : PollsSucceed trace)
      (held : afterCalls Call.lineUse false trace = some (recvHolds config)) :
      RecvLocks trace config
  | error {receiving} (failed : ¬ PollsSucceed trace) (free : afterCalls Call.lineUse false trace = some false) :
      RecvLocks trace (.running .error none receiving)
  | ending {receiving} (failed : ¬ PollsSucceed trace) (free : afterCalls Call.lineUse false trace = some false) :
      RecvLocks trace (.running .end none receiving)
  | ended {receiving} (failed : ¬ PollsSucceed trace) (lost : afterCalls Call.lineUse false trace = none) :
      RecvLocks trace (.ended receiving)

theorem RecvLocks.step {trace calls : List (Call × Response)} {config after : RecvConfig}
    (locks : RecvLocks trace config)
    (step : (recvMachine checksum).Step config calls after) : RecvLocks (trace ++ calls) after := by
  obtain ⟨state, loop, context, r1, rfl, move⟩ := recv_move step
  cases locks with
  | kept succeed held =>
    rcases recv_move_locks move with ⟨polled, moved⟩ | ⟨failed, rfl, free⟩
    · refine .kept (pollsSucceed_append.mpr ⟨succeed, polled⟩) ?_
      rw [afterCalls_append, held]
      exact moved
    · apply RecvLocks.error (fun all => failed (pollsSucceed_append.mp all).2)
      rw [afterCalls_append, held]
      exact free
  | error failed free =>
    have failed : ¬ PollsSucceed (trace ++ calls) := fun all => failed (pollsSucceed_append.mp all).1
    cases move with
    | error =>
      apply RecvLocks.ending failed
      rw [afterCalls_append, free]
      rfl
    | rejected reads denied => exact reads.elim
    | failed reads notLast refused => exact reads.elim
  | ending failed free =>
    have failed : ¬ PollsSucceed (trace ++ calls) := fun all => failed (pollsSucceed_append.mp all).1
    cases move with
    | finish unlocked =>
      apply RecvLocks.ended failed
      rw [afterCalls_append, free]
      rfl
    | rejected reads denied => exact reads.elim
    | failed reads notLast refused => exact reads.elim

theorem recv_locks {r1 : Nat} {trace : List (Call × Response)} {config : RecvConfig}
    (run : (recvMachine checksum).Runs (recvStart checksum r1) trace config) : RecvLocks trace config := by
  apply run.invariant
  · exact .kept (fun _ _ member => absurd member List.not_mem_nil) rfl
  · intro trace middle rest after locks step _
    exact locks.step step

/-- A receive whose polls succeed takes and gives back the lock in turn. One that
ends after a failed poll gives back a lock that it does not hold. -/
theorem recv_keeps_lock {r1 : Nat} {trace : List (Call × Response)} {config : RecvConfig}
    (run : (recvMachine checksum).Runs (recvStart checksum r1) trace config) :
    (PollsSucceed trace → KeepsLock trace config) ∧
      ∀ receiving, config = .ended receiving → KeepsLock trace config → PollsSucceed trace := by
  cases recv_locks run with
  | kept succeed held =>
    refine ⟨fun _ => ⟨_, held, ?_⟩, fun _ _ _ => succeed⟩
    intro receiving ended
    rw [ended]
    rfl
  | error failed free => exact ⟨fun succeed => absurd succeed failed, fun _ ended => nomatch ended⟩
  | ending failed free => exact ⟨fun succeed => absurd succeed failed, fun _ ended => nomatch ended⟩
  | ended failed lost =>
    refine ⟨fun succeed => absurd succeed failed, ?_⟩
    intro receiving _ kept
    obtain ⟨held, after, _⟩ := kept
    rw [lost] at after
    cases after

end

/-- A read error after the enquiry ends a receive with the lock given back. -/
theorem read_error_keeps_lock : ∃ trace receiving,
    (recvMachine List.sum).Runs (recvStart List.sum 0) trace (.ended receiving) ∧ PollsSucceed trace ∧
      KeepsLock trace (.ended receiving : RecvConfig) := by
  let ok : Response := ⟨.success, []⟩
  let error : Response := ⟨.error, []⟩
  have ran : (recvMachine List.sum).script 5 (recvStart List.sum 0) [ok, ok, error, ok] =
      some (.ended ⟨.initial, 0⟩,
        [(.poll .infinite, ok), (.lock, ok), (.read .immediate, error), (.unlock, ok)], []) := by
    decide +kernel
  have run := runs_of_script ran
  have succeed : PollsSucceed [(.poll .infinite, ok), (.lock, ok), (.read .immediate, error), (.unlock, ok)] := by
    simp [PollsSucceed, ok]
  exact ⟨_, _, run, succeed, (recv_keeps_lock run).1 succeed⟩

/-- After a failed poll the lock is given back by a thread that has never taken it. -/
theorem poll_error_unlocks :
    ¬ ∀ r1 trace config, (recvMachine List.sum).Runs (recvStart List.sum r1) trace config → KeepsLock trace config := by
  intro claimed
  let ok : Response := ⟨.success, []⟩
  let error : Response := ⟨.error, []⟩
  have ran : (recvMachine List.sum).script 4 (recvStart List.sum 0) [error, ok] =
      some (.ended ⟨.initial, 0⟩, [(.poll .infinite, error), (.unlock, ok)], []) := by
    decide +kernel
  obtain ⟨held, after, _⟩ := claimed _ _ _ (runs_of_script ran)
  cases after

end CpuCom.Uart.Protocol
