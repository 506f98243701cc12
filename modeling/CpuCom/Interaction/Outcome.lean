import Mathlib.Data.List.Induction

/-! Results that may be faults. An outcome says what holds of a result and which
faults are allowed. Its rules follow the binds of a function and the events of a
run, where every event may have to meet a condition on the state before it. -/

namespace CpuCom.Interaction

variable {α β σ ε φ : Type}

/-- The result is good, or the fault is allowed. -/
def Outcome (good : α → Prop) (allowed : φ → Prop) : Except φ α → Prop
  | .ok value => good value
  | .error fault => allowed fault

/-- Every event meets the condition where it comes. -/
def Guarded (step : σ → ε → Except φ σ) (meets : σ → ε → Prop) : σ → List ε → Prop
  | _, [] => True
  | state, event :: events => meets state event ∧ Outcome (Guarded step meets · events) (fun _ => True)
      (step state event)

/-- It holds in every state of a run, from the first one to the last, and where the
run ends in a fault, that fault is allowed. -/
def Throughout (step : σ → ε → Except φ σ) (holds : σ → Prop) (allowed : φ → Prop) : σ → List ε → Prop
  | state, [] => holds state
  | state, event :: events => holds state ∧ Outcome (Throughout step holds allowed · events) allowed (step state event)

instance {good : α → Prop} {allowed : φ → Prop} [DecidablePred good] [DecidablePred allowed] :
    DecidablePred (Outcome good allowed)
  | .ok value => inferInstanceAs (Decidable (good value))
  | .error fault => inferInstanceAs (Decidable (allowed fault))

instance Guarded.decidable {step : σ → ε → Except φ σ} {meets : σ → ε → Prop}
    [∀ state event, Decidable (meets state event)] :
    ∀ state events, Decidable (Guarded step meets state events)
  | _, [] => .isTrue trivial
  | state, event :: events =>
      have : DecidablePred (Guarded step meets · events) := fun next => Guarded.decidable next events
      inferInstanceAs
        (Decidable (meets state event ∧ Outcome (Guarded step meets · events) (fun _ => True) (step state event)))

instance Throughout.decidable {step : σ → ε → Except φ σ} {holds : σ → Prop} {allowed : φ → Prop}
    [DecidablePred holds] [DecidablePred allowed] :
    ∀ state events, Decidable (Throughout step holds allowed state events)
  | state, [] => inferInstanceAs (Decidable (holds state))
  | state, event :: events =>
      have : DecidablePred (Throughout step holds allowed · events) := fun next => Throughout.decidable next events
      inferInstanceAs (Decidable
        (holds state ∧ Outcome (Throughout step holds allowed · events) allowed (step state event)))

namespace Outcome

variable {good : α → Prop} {allowed : φ → Prop} {result : Except φ α}

theorem imp {better : α → Prop} (outcome : Outcome good allowed result) (weaker : ∀ value, good value → better value) :
    Outcome better allowed result := by
  cases result with
  | ok value => exact weaker value outcome
  | error fault => exact outcome

theorem fault {others : φ → Prop} (outcome : Outcome good allowed result)
    (weaker : ∀ fault, allowed fault → others fault) :
    Outcome good others result := by
  cases result with
  | ok value => exact outcome
  | error fault => exact weaker fault outcome

theorem and {other : α → Prop} {others : φ → Prop} (first : Outcome good allowed result)
    (second : Outcome other others result) :
    Outcome (fun value => good value ∧ other value) allowed result := by
  cases result with
  | ok value => exact ⟨first, second⟩
  | error fault => exact first

theorem bind {last : β → Prop} {next : α → Except φ β} (outcome : Outcome good allowed result)
    (rest : ∀ value, good value → Outcome last allowed (next value)) : Outcome last allowed (result >>= next) := by
  cases result with
  | ok value => exact rest value outcome
  | error fault => exact outcome

theorem exists_ok (outcome : Outcome good (fun _ => False) result) : ∃ value, result = .ok value ∧ good value := by
  cases result with
  | ok value => exact ⟨value, rfl, outcome⟩
  | error fault => exact outcome.elim

end Outcome

variable {step : σ → ε → Except φ σ} {meets : σ → ε → Prop} {allowed : φ → Prop} {start : σ} {events : List ε}

theorem guarded_append {rest : List ε} :
    Guarded step meets start (events ++ rest) ↔
      Guarded step meets start events ∧ Outcome (Guarded step meets · rest) (fun _ => True)
        (events.foldlM step start) := by
  induction events generalizing start with
  | nil => exact ⟨fun guarded => ⟨trivial, guarded⟩, And.right⟩
  | cons event events ih =>
    rw [List.cons_append, Guarded, Guarded, List.foldlM_cons, and_assoc]
    refine and_congr_right fun _ => ?_
    cases step start event with
    | ok next => exact ih
    | error fault => exact ⟨fun guarded => ⟨guarded, trivial⟩, And.left⟩

/-- A condition on the events alone. -/
theorem guarded_of_forall {condition : ε → Prop} (all : ∀ event ∈ events, condition event) :
    Guarded step (fun _ => condition) start events := by
  induction events generalizing start with
  | nil => trivial
  | cons event events ih =>
    refine ⟨all event (List.mem_cons_self ..), ?_⟩
    cases step start event with
    | ok next => exact ih fun other member => all other (List.mem_cons_of_mem _ member)
    | error fault => trivial

/-- What every event extends holds of the run, and of what has happened in it. -/
theorem Guarded.history {holds : List ε → σ → Prop} (guarded : Guarded step meets start events)
    (initial : holds [] start) (preserved : ∀ done state event, holds done state → meets state event →
      Outcome (holds (done ++ [event])) allowed (step state event)) :
      Outcome (holds events) allowed (events.foldlM step start) := by
  induction events using List.reverseRecOn with
  | nil => exact initial
  | append_singleton events event ih =>
    obtain ⟨guarded, last⟩ := guarded_append.mp guarded
    rw [List.foldlM_append]
    have before := ih guarded
    cases ran : events.foldlM step start with
    | ok state =>
      rw [ran] at before last
      exact (preserved events state event before last.1).bind fun next kept => kept
    | error fault =>
      rw [ran] at before
      exact before

theorem Guarded.invariant {holds : σ → Prop} (guarded : Guarded step meets start events) (initial : holds start)
    (preserved : ∀ state event, holds state → meets state event → Outcome holds allowed (step state event)) :
    Outcome holds allowed (events.foldlM step start) :=
  guarded.history initial fun _ state event kept met => preserved state event kept met

/-- Where a run ends in a fault. -/
theorem exists_fault {fault : φ} (ran : events.foldlM step start = .error fault) :
    ∃ before event after state, events = before ++ event :: after ∧ before.foldlM step start = .ok state ∧
      step state event = .error fault := by
  induction events generalizing start with
  | nil => cases ran
  | cons event events ih =>
    rw [List.foldlM_cons] at ran
    cases stepped : step start event with
    | ok next =>
      rw [stepped] at ran
      obtain ⟨before, last, after, state, rfl, reached, faulty⟩ := ih ran
      refine ⟨event :: before, last, after, state, rfl, ?_, faulty⟩
      rw [List.foldlM_cons, stepped]
      exact reached
    | error other =>
      rw [stepped] at ran
      obtain rfl := Except.error.inj ran
      exact ⟨[], event, events, start, rfl, rfl, stepped⟩

section
variable {create : α → Except φ β} {values : List α} {results : List β}

theorem mapM_cons_ok {value : α} (made : (value :: values).mapM create = .ok results) :
    ∃ first rest, create value = .ok first ∧ values.mapM create = .ok rest ∧ results = first :: rest := by
  rw [List.mapM_cons] at made
  cases first : create value with
  | error fault =>
    rw [first] at made
    cases made
  | ok result =>
    rw [first] at made
    cases others : values.mapM create with
    | error fault =>
      rw [others] at made
      cases made
    | ok rest =>
      rw [others] at made
      exact ⟨result, rest, rfl, rfl, (Except.ok.inj made).symm⟩

theorem mapM_all (made : values.mapM create = .ok results) {value : α} (member : value ∈ values) :
    ∃ result, create value = .ok result := by
  induction values generalizing results with
  | nil => exact absurd member List.not_mem_nil
  | cons other values ih =>
    obtain ⟨first, rest, here, others, -⟩ := mapM_cons_ok made
    rcases List.mem_cons.mp member with rfl | member
    · exact ⟨first, here⟩
    · exact ih others member

theorem mapM_mem_iff (made : values.mapM create = .ok results) {result : β} :
    result ∈ results ↔ ∃ value ∈ values, create value = .ok result := by
  induction values generalizing results with
  | nil =>
    obtain rfl := Except.ok.inj made
    simp
  | cons value values ih =>
    obtain ⟨first, rest, here, others, rfl⟩ := mapM_cons_ok made
    rw [List.mem_cons, ih others]
    simp [here, eq_comm]

end

namespace Throughout

variable {holds kept : σ → Prop}

theorem first (throughout : Throughout step holds allowed start events) : holds start := by
  cases events with
  | nil => exact throughout
  | cons event events => exact throughout.1

/-- A run that keeps something as long as another thing holds throughout keeps it throughout. -/
theorem carry {others : φ → Prop} (throughout : Throughout step holds others start events) (initial : kept start)
    (preserved : ∀ state event, kept state →
      Outcome (fun next => holds next → kept next) allowed (step state event)) :
    Throughout step kept allowed start events := by
  induction events generalizing start with
  | nil => exact initial
  | cons event events ih =>
    refine ⟨initial, ?_⟩
    have after := throughout.2
    have next := preserved start event initial
    cases ran : step start event with
    | ok state =>
      rw [ran] at after next
      exact ih after (next after.first)
    | error fault =>
      rw [ran] at next
      exact next

theorem imp {others : φ → Prop} (throughout : Throughout step holds allowed start events)
    (weaker : ∀ state, holds state → kept state) (fewer : ∀ fault, allowed fault → others fault) :
    Throughout step kept others start events := by
  induction events generalizing start with
  | nil => exact weaker start throughout
  | cons event events ih =>
    exact ⟨weaker start throughout.1, (throughout.2.imp fun next rest => ih rest).fault fewer⟩

theorem last {after : σ} (throughout : Throughout step holds allowed start events)
    (ran : events.foldlM step start = .ok after) : holds after := by
  induction events generalizing start with
  | nil =>
    obtain rfl := Except.ok.inj ran
    exact throughout
  | cons event events ih =>
    rw [List.foldlM_cons] at ran
    have rest := throughout.2
    cases stepped : step start event with
    | ok state =>
      rw [stepped] at rest ran
      exact ih rest ran
    | error fault =>
      rw [stepped] at ran
      cases ran

/-- Without faults the run goes through. -/
theorem exists_last (throughout : Throughout step holds (fun _ => False) start events) :
    ∃ last, events.foldlM step start = .ok last := by
  induction events generalizing start with
  | nil => exact ⟨start, rfl⟩
  | cons event events ih =>
    rw [List.foldlM_cons]
    obtain ⟨next, ran, rest⟩ := throughout.2.exists_ok
    rw [ran]
    exact ih rest

/-- If only events that meet the condition lead to a state where it holds, all
events of a run that holds throughout and goes through meet it. -/
theorem guarded {last : σ} (throughout : Throughout step holds allowed start events)
    (ran : events.foldlM step start = .ok last) (initial : kept start)
    (needed : ∀ state event next, kept state → step state event = .ok next → holds next →
      meets state event ∧ kept next) : Guarded step meets start events := by
  induction events generalizing start with
  | nil => trivial
  | cons event events ih =>
    rw [List.foldlM_cons] at ran
    have after := throughout.2
    cases stepped : step start event with
    | ok state =>
      rw [stepped] at after ran
      obtain ⟨met, kept⟩ := needed start event state initial stepped after.first
      refine ⟨met, ?_⟩
      rw [stepped]
      exact ih after ran kept
    | error fault =>
      rw [stepped] at ran
      cases ran

end Throughout

theorem Guarded.throughout {holds : σ → Prop} (guarded : Guarded step meets start events) (initial : holds start)
    (preserved : ∀ state event, holds state → meets state event → Outcome holds allowed (step state event)) :
    Throughout step holds allowed start events := by
  induction events generalizing start with
  | nil => exact initial
  | cons event events ih =>
    refine ⟨initial, ?_⟩
    have rest := guarded.2
    have next := preserved start event initial guarded.1
    cases ran : step start event with
    | ok state =>
      rw [ran] at rest next
      exact ih rest next
    | error fault =>
      rw [ran] at next
      exact next

end CpuCom.Interaction
