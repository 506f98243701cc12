import CpuCom.Interaction.Program
import Mathlib.Logic.Function.Basic
import Mathlib.Logic.Relation

/-! Threads that share one lock. Each thread runs one program after another, and
the calls of all threads interleave in any order. A thread that keeps the
discipline of the lock is alone when it makes a guarded call. -/

namespace CpuCom.Interaction

/-- What a call does with the lock. A guarded call needs it. -/
inductive LockUse where
  | acquire
  | release
  | guarded
  | free
deriving DecidableEq

namespace LockUse

/-- The call is in order for a thread that holds the lock or does not. -/
def Permitted : LockUse → Bool → Prop
  | .acquire, holds => holds = false
  | .release, holds => holds = true
  | .guarded, holds => holds = true
  | .free, _ => True

/-- Whether the lock is held after the call. The same answers for the lock and
for its caller. -/
def leaves : LockUse → Bool → Bool
  | .acquire, _ => true
  | .release, _ => false
  | .guarded, held => held
  | .free, held => held

instance : ∀ (use : LockUse) (held : Bool), Decidable (use.Permitted held)
  | .acquire, _ => inferInstanceAs (Decidable (_ = _))
  | .release, _ => inferInstanceAs (Decidable (_ = _))
  | .guarded, _ => inferInstanceAs (Decidable (_ = _))
  | .free, _ => isTrue trivial

/-- Whether a thread holds the lock after these calls, if each of them was in order. -/
def afterCalls {κ ρ : Type} (use : κ → LockUse) : Bool → List (κ × ρ) → Option Bool
  | held, [] => some held
  | held, (request, _) :: calls =>
      if (use request).Permitted held then afterCalls use ((use request).leaves held) calls else none

theorem afterCalls_append {κ ρ : Type} {use : κ → LockUse} {held : Bool} {first rest : List (κ × ρ)} :
    afterCalls use held (first ++ rest) = (afterCalls use held first).bind fun held => afterCalls use held rest := by
  induction first generalizing held with
  | nil => rfl
  | cons call first ih =>
    rw [List.cons_append, afterCalls, afterCalls]
    split
    · exact ih
    · rfl

end LockUse

variable {κ ρ α β : Type} {use : κ → LockUse} {answers : κ → ρ → Prop}

variable (use answers) in
/-- Every call of the program is in order, whatever the answers. -/
def Program.Keeps (post : α → Bool → Prop) : Program κ ρ α → Bool → Prop
  | .pure value, holds => post value holds
  | .throw, _ => True
  | .call request next, holds => (use request).Permitted holds ∧
      ∀ reply, answers request reply → (next reply).Keeps post ((use request).leaves holds)

theorem Program.Keeps.bind {program : Program κ ρ α} {next : α → Program κ ρ β} {middle : α → Bool → Prop}
    {post : β → Bool → Prop} {holds : Bool} (keeps : program.Keeps use answers middle holds)
    (continues : ∀ value held, middle value held → (next value).Keeps use answers post held) :
    (program >>= next).Keeps use answers post holds := by
  induction program generalizing holds with
  | pure value => exact continues value holds keeps
  | throw => trivial
  | call request rest ih => exact ⟨keeps.1, fun reply answered => ih reply (keeps.2 reply answered)⟩

/-- Every thread has a program and knows whether it holds the lock, that is,
whether it has called for the lock more recently than it has given it back. -/
structure Threads {ι : Type} (θ : ι → Type) (κ ρ : Type) where
  program : (thread : ι) → Program κ ρ (θ thread)
  holds : ι → Bool
  locked : Bool

namespace Threads

variable {ι : Type} [DecidableEq ι] {θ : ι → Type}

inductive Action (θ : ι → Type) (κ ρ : Type) where
  | call (thread : ι) (request : κ) (reply : ρ)
  | enter (thread : ι) (value : θ thread)

/-- The answer to a call, or the value from which a thread goes on, is one of those given. -/
def Action.Meets (answers : κ → ρ → Prop) (entry : (thread : ι) → θ thread → Prop) : Action θ κ ρ → Prop
  | .call _ request reply => answers request reply
  | .enter thread value => entry thread value

instance {answers : κ → ρ → Prop} {entry : (thread : ι) → θ thread → Prop}
    [∀ request reply, Decidable (answers request reply)]
    [∀ thread value, Decidable (entry thread value)] : DecidablePred (Action.Meets answers entry)
  | .call _ request reply => inferInstanceAs (Decidable (answers request reply))
  | .enter thread value => inferInstanceAs (Decidable (entry thread value))

/-- The program of a thread is replaced. -/
def proceed (threads : Threads θ κ ρ) (thread : ι) (next : Program κ ρ (θ thread)) : Threads θ κ ρ :=
  { threads with program := Function.update threads.program thread next }

def handOver (threads : Threads θ κ ρ) (thread : ι) (use : LockUse) : Threads θ κ ρ :=
  { threads with
    holds := Function.update threads.holds thread (use.leaves (threads.holds thread))
    locked := use.leaves threads.locked }

section
variable (threads : Threads θ κ ρ) (thread : ι) (next : Program κ ρ (θ thread)) (called : LockUse)

@[simp] theorem program_proceed : (threads.proceed thread next).program thread = next :=
  Function.update_self ..

@[simp] theorem holds_proceed : (threads.proceed thread next).holds = threads.holds := rfl

@[simp] theorem program_handOver : (threads.handOver thread called).program = threads.program := rfl

@[simp] theorem holds_handOver : (threads.handOver thread called).holds thread = called.leaves (threads.holds thread) :=
  Function.update_self ..

variable {threads thread next called} {other : ι}

theorem program_proceed_of_ne (different : other ≠ thread) :
    (threads.proceed thread next).program other = threads.program other :=
  Function.update_of_ne different ..

theorem holds_handOver_of_ne (different : other ≠ thread) :
    (threads.handOver thread called).holds other = threads.holds other :=
  Function.update_of_ne different ..

end

variable (use) (enters : (thread : ι) → θ thread → Program κ ρ (θ thread) → Prop)

/-- A thread makes its next call, for which a taken lock must be free, or goes on
from the value of the program that it has finished. -/
inductive Step (threads : Threads θ κ ρ) : Action θ κ ρ → Threads θ κ ρ → Prop where
  | call {thread request next} (reply) (due : threads.program thread = .call request next)
      (free : use request = .acquire → threads.locked = false) :
      Step threads (.call thread request reply) ((threads.proceed thread (next reply)).handOver thread (use request))
  | enter {thread value next} (finished : threads.program thread = .pure value) (entered : enters thread value next) :
      Step threads (.enter thread value) (threads.proceed thread next)

/-- Any number of steps whose actions meet a condition, of any threads in any order. -/
abbrev Reaches (meets : Action θ κ ρ → Prop) : Threads θ κ ρ → Threads θ κ ρ → Prop :=
  Relation.ReflTransGen fun before after => ∃ action, Step use enters before action after ∧ meets action

variable (answers) (rests : (thread : ι) → θ thread → Bool)

/-- Every thread keeps the discipline up to a value with which it holds the lock
or not as `rests` says, and a thread that holds the lock is the only one. -/
structure Disciplined (threads : Threads θ κ ρ) : Prop where
  keeps : ∀ thread, (threads.program thread).Keeps use answers
    (fun value holds => holds = rests thread value) (threads.holds thread)
  locked : ∀ thread, threads.holds thread = true → threads.locked = true
  alone : ∀ thread other, threads.holds thread = true → threads.holds other = true → thread = other

variable {use enters answers rests} {entry : (thread : ι) → θ thread → Prop} {before after : Threads θ κ ρ}

private theorem handOver_kept {thread : ι} {called : LockUse} (kept : ∀ held, called.leaves held = held) :
    before.handOver thread called = before := by
  unfold Threads.handOver
  rw [kept, kept, Function.update_eq_self]

/-- A thread that takes the lock finds it free, so that nobody holds it, and a
thread that gives it back was the only one to hold it. -/
private theorem Disciplined.handOver {thread : ι} {called : LockUse}
    (disciplined : before.Disciplined use answers rests) (permitted : called.Permitted (before.holds thread))
    (free : called = .acquire → before.locked = false) :
    (∀ other, (before.handOver thread called).holds other = true → (before.handOver thread called).locked = true) ∧
      ∀ first other, (before.handOver thread called).holds first = true →
        (before.handOver thread called).holds other = true → first = other := by
  cases called with
  | acquire =>
    have only : ∀ other, (before.handOver thread .acquire).holds other = true → other = thread := by
      intro other held
      by_contra different
      rw [holds_handOver_of_ne different] at held
      have locked := disciplined.locked other held
      rw [free rfl] at locked
      cases locked
    exact ⟨fun _ _ => rfl, fun first other held holding => (only first held).trans (only other holding).symm⟩
  | release =>
    have nobody : ∀ other, (before.handOver thread .release).holds other ≠ true := by
      intro other held
      by_cases same : other = thread
      · subst same
        rw [holds_handOver] at held
        cases held
      · rw [holds_handOver_of_ne same] at held
        exact same (disciplined.alone other thread held permitted)
    exact ⟨fun other held => absurd held (nobody other), fun first _ held => absurd held (nobody first)⟩
  | guarded =>
    rw [handOver_kept fun _ => rfl]
    exact ⟨disciplined.locked, disciplined.alone⟩
  | free =>
    rw [handOver_kept fun _ => rfl]
    exact ⟨disciplined.locked, disciplined.alone⟩

theorem Disciplined.step {action : Action θ κ ρ} (disciplined : before.Disciplined use answers rests)
    (entered : ∀ thread value next, entry thread value → enters thread value next →
      next.Keeps use answers (fun value holds => holds = rests thread value) (rests thread value))
    (step : Step use enters before action after) (meets : action.Meets answers entry) :
    after.Disciplined use answers rests := by
  cases step with
  | @call thread request next reply due free =>
    have keeps := disciplined.keeps thread
    rw [due] at keeps
    obtain ⟨permitted, continues⟩ := keeps
    obtain ⟨locked, alone⟩ := disciplined.handOver permitted free
    refine ⟨?_, locked, alone⟩
    intro other
    by_cases same : other = thread
    · subst same
      rw [program_handOver, program_proceed, holds_handOver]
      exact continues reply meets
    · rw [program_handOver, program_proceed_of_ne same, holds_handOver_of_ne same]
      exact disciplined.keeps other
  | @enter thread value next finished goesOn =>
    refine ⟨?_, disciplined.locked, disciplined.alone⟩
    intro other
    by_cases same : other = thread
    · subst same
      have rest := disciplined.keeps other
      rw [finished] at rest
      rw [program_proceed, holds_proceed, show before.holds other = rests other value from rest]
      exact entered other value next meets goesOn
    · rw [program_proceed_of_ne same]
      exact disciplined.keeps other

theorem Disciplined.reaches (disciplined : before.Disciplined use answers rests)
    (entered : ∀ thread value next, entry thread value → enters thread value next →
      next.Keeps use answers (fun value holds => holds = rests thread value) (rests thread value))
    (reached : Reaches use enters (·.Meets answers entry) before after) : after.Disciplined use answers rests := by
  induction reached with
  | refl => exact disciplined
  | tail _ step ih =>
    obtain ⟨action, step, meets⟩ := step
    exact ih.step entered step meets

/-- Nobody else holds the lock when a thread makes a guarded call. -/
theorem Disciplined.guarded {thread other : ι} {request : κ} {reply : ρ}
    (disciplined : before.Disciplined use answers rests)
    (step : Step use enters before (.call thread request reply) after) (needed : use request = .guarded)
    (different : other ≠ thread) : before.holds other = false := by
  cases step with
  | call reply due free =>
    have keeps := disciplined.keeps thread
    rw [due] at keeps
    have permitted := keeps.1
    rw [needed] at permitted
    by_contra held
    exact different (disciplined.alone other thread (eq_true_of_ne_false held) permitted)

section
variable (use) (enter : (thread : ι) → θ thread → Option (Program κ ρ (θ thread)))

/-- One step of a thread. The reply is not used where the thread makes no call. -/
def advance (threads : Threads θ κ ρ) (thread : ι) (reply : ρ) : Option (Action θ κ ρ × Threads θ κ ρ) :=
  match threads.program thread with
  | .pure value => (enter thread value).map fun next => (.enter thread value, threads.proceed thread next)
  | .throw => none
  | .call request next =>
      if use request = .acquire ∧ threads.locked = true then none
      else some (.call thread request reply, (threads.proceed thread (next reply)).handOver thread (use request))

/-- The steps of the threads listed, as long as each action meets the condition. -/
def schedule (meets : Action θ κ ρ → Prop) [DecidablePred meets] : Threads θ κ ρ → List (ι × ρ) → Option (Threads θ κ ρ)
  | threads, [] => some threads
  | threads, (thread, reply) :: turns =>
      match threads.advance use enter thread reply with
      | none => none
      | some (action, next) => if meets action then next.schedule meets turns else none

/-- The call that a thread makes next. -/
def due (threads : Threads θ κ ρ) (thread : ι) : Option κ :=
  match threads.program thread with
  | .call request _ => some request
  | _ => none

end

variable {enter : (thread : ι) → θ thread → Option (Program κ ρ (θ thread))}

theorem step_of_advance {thread : ι} {reply : ρ} {action : Action θ κ ρ}
    (sound : ∀ thread value next, enter thread value = some next → enters thread value next)
    (advanced : before.advance use enter thread reply = some (action, after)) :
    Step use enters before action after := by
  unfold advance at advanced
  split at advanced
  · next value finished =>
    obtain ⟨next, entered, same⟩ := Option.map_eq_some_iff.mp advanced
    cases same
    exact .enter finished (sound _ _ _ entered)
  · cases advanced
  · next request next due =>
    split at advanced
    · cases advanced
    · next unlocked =>
      cases advanced
      apply Step.call reply due
      intro taken
      exact eq_false_of_ne_true fun locked => unlocked ⟨taken, locked⟩

variable (use enters) in
theorem step_of_due {thread : ι} {request : κ} (reply : ρ) (due : before.due thread = some request)
    (needed : use request = .guarded) : ∃ after, Step use enters before (.call thread request reply) after := by
  unfold Threads.due at due
  split at due
  · next request next program =>
    cases due
    refine ⟨_, .call reply program fun taken => ?_⟩
    rw [needed] at taken
    cases taken
  · cases due

theorem reaches_of_schedule {meets : Action θ κ ρ → Prop} [DecidablePred meets] {turns : List (ι × ρ)}
    (sound : ∀ thread value next, enter thread value = some next → enters thread value next)
    (ran : before.schedule use enter meets turns = some after) :
    Reaches use enters meets before after := by
  induction turns generalizing before with
  | nil =>
    cases ran
    exact .refl
  | cons turn turns ih =>
    obtain ⟨thread, reply⟩ := turn
    rw [schedule] at ran
    split at ran
    · cases ran
    · next action next advanced =>
      split at ran
      · next checked => exact .head ⟨action, step_of_advance sound advanced, checked⟩ (ih ran)
      · cases ran

end Threads
end CpuCom.Interaction
