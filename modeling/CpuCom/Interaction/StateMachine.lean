import CpuCom.Interaction.Program

/-! Finite state machines whose handlers are programs. A handler ends with an
event, which selects the registered transition; a handler that is a loop may ask
to be entered again with a new value of its loop variable. -/

namespace CpuCom.Interaction

variable {σ ε β κ ρ γ : Type}

/-- How one pass through a handler ends. -/
inductive Flow (β ε : Type) where
  | again (loop : β)
  | event (event : ε)

structure FiniteStateMachine (σ ε β κ ρ γ : Type) where
  initialState : σ
  finalState : σ
  enter : β
  handler : σ → β → γ → Program κ ρ (γ × Flow β ε)
  transition : σ → ε → σ

inductive Config (σ β γ : Type) where
  | running (state : σ) (loop : β) (data : γ)
  | ended (data : γ)
deriving DecidableEq

def Config.data : Config σ β γ → γ
  | .running _ _ data => data
  | .ended data => data

def Config.state? : Config σ β γ → Option σ
  | .running state _ _ => some state
  | .ended _ => none

namespace FiniteStateMachine

variable [DecidableEq σ] (machine : FiniteStateMachine σ ε β κ ρ γ)

def start (data : γ) : Config σ β γ := .running machine.initialState machine.enter data

/-- The transition registered for the event is followed, except that the machine
stops after the handler of the final state. -/
def follow (state : σ) (data : γ) : Flow β ε → Config σ β γ
  | .again loop => .running state loop data
  | .event event =>
      if state = machine.finalState then .ended data
      else .running (machine.transition state event) machine.enter data

/-- One pass through the handler of a state. -/
def handle (state : σ) (loop : β) (data : γ) : Program κ ρ (Config σ β γ) :=
  machine.handler state loop data >>= fun result => .pure (machine.follow state result.1 result.2)

variable {machine}

theorem returns_handle {state : σ} {loop : β} {data : γ} {trace : List (κ × ρ)} {after : Config σ β γ} :
    (machine.handle state loop data).Returns trace after ↔
      ∃ data' flow, (machine.handler state loop data).Returns trace (data', flow) ∧
        after = machine.follow state data' flow := by
  unfold handle
  rw [Program.returns_bind]
  constructor
  · rintro ⟨⟨data', flow⟩, first, rest, rfl, returned, rfl, rfl⟩
    exact ⟨data', flow, by simpa using returned, rfl⟩
  · rintro ⟨data', flow, returned, rfl⟩
    exact ⟨(data', flow), trace, [], by simp, returned, rfl, rfl⟩

/-- What one pass may do, with the calls it makes. -/
abbrev Move (σ β κ ρ γ : Type) := Config σ β γ → List (κ × ρ) → Config σ β γ → Prop

variable (machine) in
def Step (before : Config σ β γ) (trace : List (κ × ρ)) (after : Config σ β γ) : Prop :=
  ∃ state loop data, before = .running state loop data ∧
    (machine.handle state loop data).Returns trace after

variable (machine) in
/-- The runs of the machine for arbitrary replies, restricted to steps that meet
a condition. A trace records every call of the run in order. -/
inductive Run (meets : Move σ β κ ρ γ) : Config σ β γ → List (κ × ρ) → Config σ β γ → Prop where
  | refl (config) : Run meets config [] config
  | step {before middle after first rest} :
      Run meets before first middle → machine.Step middle rest after → meets middle rest after →
      Run meets before (first ++ rest) after

variable (machine) in
abbrev Runs := machine.Run (fun _ _ _ => True)

variable {meets stricter : Move σ β κ ρ γ} {before middle after : Config σ β γ}
  {first rest trace : List (κ × ρ)}

theorem Run.single (step : machine.Step before trace after) (met : meets before trace after) :
    machine.Run meets before trace after :=
  (Run.refl before).step step met

theorem Run.mono (run : machine.Run stricter before trace after)
    (implies : ∀ before trace after, stricter before trace after → meets before trace after) :
    machine.Run meets before trace after := by
  induction run with
  | refl => exact .refl _
  | step _ step met ih => exact ih.step step (implies _ _ _ met)

theorem Run.runs (run : machine.Run meets before trace after) : machine.Runs before trace after :=
  run.mono fun _ _ _ _ => trivial

theorem Run.append (run : machine.Run meets before first middle) (continued : machine.Run meets middle rest after) :
    machine.Run meets before (first ++ rest) after := by
  induction continued with
  | refl => simpa using run
  | step _ step met ih => rw [← List.append_assoc]; exact ih.step step met

/-- A run meets what each of its steps meets in view of the whole run. -/
theorem Run.meet {last : Config σ β γ} (run : machine.Runs before first middle)
    (continued : machine.Runs middle rest last)
    (meet : ∀ {earlier later passed more left}, machine.Runs before passed earlier →
      machine.Step earlier more later → machine.Runs later left last → meets earlier more later) :
    machine.Run meets before first middle := by
  induction run generalizing rest with
  | refl => exact .refl _
  | step reached step _ ih =>
    exact (ih ((Run.single step trivial).append continued)).step step (meet reached step continued)

/-- A relation between a configuration and the calls that led to it holds in
every run if it holds at the start and every step that meets the condition
extends it. -/
theorem Run.invariant {holds : List (κ × ρ) → Config σ β γ → Prop}
    (run : machine.Run meets before trace after) (initial : holds [] before)
    (preserved : ∀ trace middle rest after, holds trace middle → machine.Step middle rest after →
      meets middle rest after → holds (trace ++ rest) after) : holds trace after := by
  induction run with
  | refl => exact initial
  | step _ step met ih => exact preserved _ _ _ _ ih step met

end FiniteStateMachine
end CpuCom.Interaction
