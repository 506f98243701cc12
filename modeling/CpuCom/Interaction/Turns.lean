import CpuCom.Interaction.Tasks

/-! Runs of a system that are computed from the turns taken in them. A turn names
who goes on, and whatever the system leaves open about the reply. -/

namespace CpuCom.Interaction

variable {ι κ ρ δ χ : Type} {system : System ι κ ρ δ}

inductive Turn (ι χ : Type) where
  | begins (task : ι)
  | calls (index : Nat) (choice : χ)

namespace System

variable (opens : List (Activity system.program) → δ → ι → Option δ) (replies : δ → κ → χ → Option (ρ × δ))

def turn (pool : system.Pool) : Turn ι χ → Option (Event ι κ ρ × system.Pool)
  | .begins task => (opens pool.tasks pool.shared task).map fun after =>
      (.begins task, ⟨pool.tasks ++ [Activity.start system.program task], after⟩)
  | .calls index choice =>
      pool.tasks[index]?.bind fun activity =>
        match due : activity.rest with
        | .call request _ => (replies pool.shared request choice).map fun (reply, after) =>
            (.calls index request reply, ⟨pool.tasks.set index (activity.advance due reply), after⟩)
        | _ => none

def play : system.Pool → List (Turn ι χ) → Option (List (Event ι κ ρ) × system.Pool)
  | pool, [] => some ([], pool)
  | pool, next :: turns =>
      (turn opens replies pool next).bind fun (event, after) =>
        (play after turns).map fun (trace, last) => (event :: trace, last)

/-- Every turn meets the condition where it is taken. -/
def obeys (meets : system.Pool → Event ι κ ρ → Prop) [∀ pool event, Decidable (meets pool event)] :
    system.Pool → List (Turn ι χ) → Bool
  | _, [] => true
  | pool, next :: turns =>
      (turn opens replies pool next).all fun (event, after) => decide (meets pool event) && obeys meets after turns

/-- What is computed is what the system allows. -/
structure Allowed : Prop where
  begins : ∀ tasks shared task after, opens tasks shared task = some after → system.begins tasks shared task after
  answers : ∀ shared request choice reply after, replies shared request choice = some (reply, after) →
    system.answers shared request reply after

variable {opens replies}

theorem step_of_turn (allowed : Allowed opens replies) {pool after : system.Pool} {next : Turn ι χ}
    {event : Event ι κ ρ}
    (taken : turn opens replies pool next = some (event, after)) : system.Step pool event after := by
  cases next with
  | begins task =>
    obtain ⟨shared, opened, same⟩ := Option.map_eq_some_iff.mp taken
    obtain ⟨rfl, rfl⟩ := Prod.mk.inj same
    exact .begins (allowed.begins _ _ _ _ opened)
  | calls index choice =>
    obtain ⟨activity, found, taken⟩ := Option.bind_eq_some_iff.mp taken
    split at taken
    · obtain ⟨⟨reply, shared⟩, replied, same⟩ := Option.map_eq_some_iff.mp taken
      obtain ⟨rfl, rfl⟩ := Prod.mk.inj same
      exact .calls found _ (allowed.answers _ _ _ _ _ replied)
    · exact nomatch taken

theorem Reaches.prepend {start pool middle : system.Pool} {trace : List (Event ι κ ρ)} {event : Event ι κ ρ}
    (first : system.Step start event middle) (reached : system.Reaches middle trace pool) :
    system.Reaches start (event :: trace) pool := by
  induction reached with
  | refl => exact .step .refl first
  | step _ last ih => exact ih.step last

theorem reaches_of_play (allowed : Allowed opens replies) {start pool : system.Pool} {turns : List (Turn ι χ)}
    {trace : List (Event ι κ ρ)}
    (played : play opens replies start turns = some (trace, pool)) : system.Reaches start trace pool := by
  induction turns generalizing start trace with
  | nil =>
    obtain ⟨rfl, rfl⟩ := Prod.mk.inj (Option.some.inj played)
    exact .refl
  | cons next turns ih =>
    obtain ⟨⟨event, middle⟩, taken, rest⟩ := Option.bind_eq_some_iff.mp played
    obtain ⟨⟨later, last⟩, further, same⟩ := Option.map_eq_some_iff.mp rest
    obtain ⟨rfl, rfl⟩ := Prod.mk.inj same
    exact (ih further).prepend (step_of_turn allowed taken)

theorem Keeps.prepend {meets : system.Pool → Event ι κ ρ → Prop} {start pool middle : system.Pool}
    {trace : List (Event ι κ ρ)}
    {event : Event ι κ ρ} (first : system.Step start event middle) (met : meets start event)
    (kept : system.Keeps meets middle trace pool) : system.Keeps meets start (event :: trace) pool := by
  induction kept with
  | refl => exact .step .refl first met
  | step _ last meets ih => exact ih.step last meets

theorem keeps_of_play (allowed : Allowed opens replies) {meets : system.Pool → Event ι κ ρ → Prop}
    [∀ pool event, Decidable (meets pool event)] {start pool : system.Pool} {turns : List (Turn ι χ)}
    {trace : List (Event ι κ ρ)}
    (played : play opens replies start turns = some (trace, pool))
    (obeyed : obeys opens replies meets start turns = true) :
    system.Keeps meets start trace pool := by
  induction turns generalizing start trace with
  | nil =>
    obtain ⟨rfl, rfl⟩ := Prod.mk.inj (Option.some.inj played)
    exact .refl
  | cons next turns ih =>
    obtain ⟨⟨event, middle⟩, taken, rest⟩ := Option.bind_eq_some_iff.mp played
    obtain ⟨⟨later, last⟩, further, same⟩ := Option.map_eq_some_iff.mp rest
    obtain ⟨rfl, rfl⟩ := Prod.mk.inj same
    rw [obeys, taken, Option.all_some, Bool.and_eq_true] at obeyed
    exact (ih further obeyed.2).prepend (step_of_turn allowed taken) (of_decide_eq_true obeyed.1)

/-- A computed run whose turns meet a condition, with what has been checked of it. -/
theorem exists_kept (allowed : Allowed opens replies) {meets : system.Pool → Event ι κ ρ → Prop}
    [∀ pool event, Decidable (meets pool event)] {start : system.Pool} {turns : List (Turn ι χ)}
    {check : List (Event ι κ ρ) × system.Pool → Bool} (obeyed : obeys opens replies meets start turns = true)
    (checked : (play opens replies start turns).any check = true) :
    ∃ trace pool, system.Keeps meets start trace pool ∧ check (trace, pool) = true := by
  obtain ⟨⟨trace, pool⟩, played, checked⟩ := (Option.any_eq_true _ _).mp checked
  exact ⟨trace, pool, keeps_of_play allowed played obeyed, checked⟩

/-- A computed run with what has been checked of it. -/
theorem exists_run (allowed : Allowed opens replies) {start : system.Pool} {turns : List (Turn ι χ)}
    {check : List (Event ι κ ρ) × system.Pool → Bool}
    (checked : (play opens replies start turns).any check = true) :
    ∃ trace pool, system.Reaches start trace pool ∧ check (trace, pool) = true := by
  obtain ⟨⟨trace, pool⟩, played, checked⟩ := (Option.any_eq_true _ _).mp checked
  exact ⟨trace, pool, reaches_of_play allowed played, checked⟩

end System
end CpuCom.Interaction
