import CpuCom.Interaction.Accounts

/-! Tasks of one thread beside any others. Each of them begins when the ones before it
have finished, so that what they call comes in the order in which they have begun. -/

namespace CpuCom.Interaction.System

variable {ι κ ρ δ α : Type} {system : System ι κ ρ δ} (thread : ι → Prop)

/-- No task of the thread is under way. -/
def Pool.Free (pool : system.Pool) : Prop := ∀ activity ∈ pool.tasks, thread activity.task → activity.Finished

instance [DecidablePred thread] (pool : system.Pool) : Decidable (pool.Free thread) :=
  inferInstanceAs (Decidable (∀ activity ∈ pool.tasks, thread activity.task → activity.Finished))

/-- The thread begins a task only when it is free. -/
def InTurn (pool : system.Pool) : Event ι κ ρ → Prop
  | .begins task => thread task → pool.Free thread
  | .calls _ _ _ => True

instance [DecidablePred thread] (pool : system.Pool) : DecidablePred (InTurn thread pool)
  | .begins task => inferInstanceAs (Decidable (thread task → pool.Free thread))
  | .calls _ _ _ => .isTrue trivial

/-- A task of the thread that is under way is the last one of the thread. -/
def Pool.Serial (pool : system.Pool) : Prop :=
  pool.tasks.Pairwise fun earlier later => thread earlier.task → thread later.task → earlier.Finished

/-- Everything that has been called, in order. -/
def made (trace : List (Event ι κ ρ)) : List (κ × ρ) :=
  trace.filterMap fun
    | .calls _ request reply => some (request, reply)
    | .begins _ => none

variable {thread} {meets : system.Pool → Event ι κ ρ → Prop} {start pool after : system.Pool}
  {trace : List (Event ι κ ρ)} {event : Event ι κ ρ}

theorem Keeps.reaches (kept : system.Keeps meets start trace pool) : system.Reaches start trace pool := by
  induction kept with
  | refl => exact .refl
  | step _ step _ ih => exact ih.step step

theorem Pool.Serial.step (serial : pool.Serial thread) (step : system.Step pool event after)
    (inTurn : InTurn thread pool event) : after.Serial thread := by
  cases step with
  | @begins tasks shared task _ allowed =>
    refine List.pairwise_append.mpr ⟨serial, List.pairwise_singleton .., fun earlier member later added => ?_⟩
    obtain rfl := List.mem_singleton.mp added
    exact fun own next => inTurn next earlier member own
  | @calls tasks shared index activity request next reply _ found due answered =>
    obtain ⟨inside, rfl⟩ := List.getElem?_eq_some_iff.mp found
    refine List.pairwise_iff_getElem.mpr fun i j early late before => ?_
    rw [List.length_set] at early late
    have ordered := List.pairwise_iff_getElem.mp serial i j early late before
    rw [List.getElem_set, List.getElem_set]
    split
    · next same =>
      subst same
      rw [if_neg (Nat.ne_of_lt before)]
      intro own later
      cases due.symm.trans (ordered own later)
    · split
      · next same =>
        subst same
        exact ordered
      · exact ordered

/-- In a pool that is serial what a task of the thread calls next comes after all that
the thread has called. -/
theorem flatMap_set_advance {emit : κ × ρ → Option α} {tasks : List (Activity system.program)} {index : Nat}
    {activity : Activity system.program} {request : κ} {next : ρ → Program κ ρ Unit}
    (silent : ∀ activity : Activity system.program, ¬ thread activity.task → activity.made.filterMap emit = [])
    (serial : tasks.Pairwise fun earlier later => thread earlier.task → thread later.task → earlier.Finished)
    (found : tasks[index]? = some activity) (due : activity.rest = .call request next) (reply : ρ) :
    ((tasks.set index (activity.advance due reply)).flatMap fun activity => activity.made.filterMap emit) =
      (tasks.flatMap fun activity => activity.made.filterMap emit) ++ (emit (request, reply)).toList := by
  induction tasks generalizing index with
  | nil => cases found
  | cons first tasks ih =>
    obtain ⟨ends, later⟩ := List.pairwise_cons.mp serial
    cases index with
    | zero =>
      obtain rfl := Option.some.inj found
      have made : (first.advance due reply).made = first.made ++ [(request, reply)] := rfl
      rw [List.set_cons_zero, List.flatMap_cons, List.flatMap_cons, made, List.filterMap_append, List.append_assoc,
        List.append_assoc]
      refine congrArg (_ ++ ·) ?_
      have one : [(request, reply)].filterMap emit = (emit (request, reply)).toList := by
        cases emitted : emit (request, reply) <;> simp [emitted]
      rw [one]
      by_cases own : thread first.task
      · have rest : (tasks.flatMap fun activity => activity.made.filterMap emit) = [] := by
          refine List.flatMap_eq_nil_iff.mpr fun other member => silent other fun theirs => ?_
          cases due.symm.trans (ends other member own theirs)
        rw [rest, List.append_nil, List.nil_append]
      · have nothing := silent (first.advance due reply) own
        rw [made, List.filterMap_append, List.append_eq_nil_iff, one] at nothing
        rw [nothing.2, List.nil_append, List.append_nil]
    | succ index =>
      rw [List.set_cons_succ, List.flatMap_cons, List.flatMap_cons, ih later found, List.append_assoc]

/-- What a thread gives out comes in the order of its tasks. -/
theorem Keeps.serial {shared : δ} {emit : κ × ρ → Option α} (kept : system.Keeps (InTurn thread) ⟨[], shared⟩ trace pool)
    (silent : ∀ activity : Activity system.program, ¬ thread activity.task → activity.made.filterMap emit = []) :
    pool.Serial thread ∧
      (made trace).filterMap emit = pool.tasks.flatMap fun activity => activity.made.filterMap emit := by
  induction kept with
  | refl => exact ⟨List.Pairwise.nil, rfl⟩
  | @step trace pool event after _ step met ih =>
    obtain ⟨serial, emitted⟩ := ih
    refine ⟨serial.step step met, ?_⟩
    cases step with
    | begins allowed =>
      simpa [made, Activity.start] using emitted
    | @calls tasks shared index activity request next reply _ found due answered =>
      rw [flatMap_set_advance silent serial found due, ← emitted, made, made, List.filterMap_append,
        List.filterMap_append]
      refine congrArg (_ ++ ·) ?_
      cases given : emit (request, reply) <;> simp [given]

end CpuCom.Interaction.System
