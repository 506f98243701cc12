import CpuCom.Interaction.StateMachine

/-! Runs with the history of their passes: where each pass through a handler
began, what it called and where it led. Counters are accounted for by counting
passes. -/

namespace CpuCom.Interaction.FiniteStateMachine

variable {σ ε β κ ρ γ : Type}

/-- One pass through a handler. -/
structure Pass (σ β κ ρ γ : Type) where
  before : Config σ β γ
  calls : List (κ × ρ)
  after : Config σ β γ

/-- All the calls of the passes in order. -/
def callsOf (passes : List (Pass σ β κ ρ γ)) : List (κ × ρ) := passes.flatMap Pass.calls

@[simp] theorem callsOf_append (first rest : List (Pass σ β κ ρ γ)) :
    callsOf (first ++ rest) = callsOf first ++ callsOf rest := List.flatMap_append

@[simp] theorem callsOf_singleton (pass : Pass σ β κ ρ γ) : callsOf [pass] = pass.calls := List.append_nil _

variable [DecidableEq σ]

/-- How often the handler of a state has been entered. -/
def visits (state : σ) (passes : List (Pass σ β κ ρ γ)) : Nat :=
  passes.countP (·.before.state? = some state)

@[simp] theorem visits_append (state : σ) (first rest : List (Pass σ β κ ρ γ)) :
    visits state (first ++ rest) = visits state first + visits state rest := List.countP_append

theorem visits_here {state : σ} {loop : β} {data : γ} {calls : List (κ × ρ)} {after : Config σ β γ} :
    visits state [⟨.running state loop data, calls, after⟩] = 1 := by
  simp [visits, Config.state?]

theorem visits_elsewhere {state other : σ} {loop : β} {data : γ} {calls : List (κ × ρ)} {after : Config σ β γ}
    (different : other ≠ state) : visits state [⟨.running other loop data, calls, after⟩] = 0 := by
  simp [visits, Config.state?, different]

variable (machine : FiniteStateMachine σ ε β κ ρ γ)

/-- The runs of the machine whose steps meet a condition, with their passes. -/
inductive Path (meets : Move σ β κ ρ γ) : Config σ β γ → List (Pass σ β κ ρ γ) → Config σ β γ → Prop where
  | refl (config) : Path meets config [] config
  | step {before middle after passes calls} :
      Path meets before passes middle → machine.Step middle calls after → meets middle calls after →
      Path meets before (passes ++ [⟨middle, calls, after⟩]) after

variable {machine} {meets : Move σ β κ ρ γ} {before middle after : Config σ β γ}

/-- Every run has a history. -/
theorem Run.path {trace : List (κ × ρ)} (run : machine.Run meets before trace after) :
    ∃ passes, machine.Path meets before passes after ∧ trace = callsOf passes := by
  induction run with
  | refl => exact ⟨[], .refl _, rfl⟩
  | step _ step met ih =>
    obtain ⟨passes, path, rfl⟩ := ih
    refine ⟨_, path.step step met, ?_⟩
    rw [callsOf_append, callsOf_singleton]

/-- A relation between a configuration and the passes that led to it holds in
every run if it holds at the start and every step that meets the condition
extends it. -/
theorem Path.invariant {holds : List (Pass σ β κ ρ γ) → Config σ β γ → Prop} {passes : List (Pass σ β κ ρ γ)}
    (path : machine.Path meets before passes after) (initial : holds [] before)
    (preserved : ∀ passes middle calls after, holds passes middle → machine.Step middle calls after →
      meets middle calls after → holds (passes ++ [⟨middle, calls, after⟩]) after) : holds passes after := by
  induction path with
  | refl => exact initial
  | step _ step met ih => exact preserved _ _ _ _ ih step met

/-- Every pass is a step of the machine. -/
theorem Path.stepped {passes : List (Pass σ β κ ρ γ)} (path : machine.Path meets before passes after) :
    ∀ pass ∈ passes, machine.Step pass.before pass.calls pass.after := by
  induction path with
  | refl => simp
  | step _ step _ ih =>
    intro pass member
    rcases List.mem_append.mp member with earlier | last
    · exact ih pass earlier
    · obtain rfl := List.mem_singleton.mp last
      exact step

end CpuCom.Interaction.FiniteStateMachine
