import CpuCom.Interaction.StateMachine
import Mathlib.Computability.StateTransition

/-! A machine run against one environment is deterministic: from a configuration
and a device state there is a single path, which stops when the machine ends, an
exception is thrown or the device has no reply yet. -/

namespace CpuCom.Interaction.FiniteStateMachine
open StateTransition

variable {σ ε β κ ρ γ δ : Type} [DecidableEq σ]
variable (machine : FiniteStateMachine σ ε β κ ρ γ) (answer : δ → κ → Option (ρ × δ))

def stepOn : Config σ β γ × δ → Option (Config σ β γ × δ)
  | (.running state loop data, device) => (machine.handle state loop data).runOn answer device
  | (.ended _, _) => none

abbrev ReachesOn : Config σ β γ × δ → Config σ β γ × δ → Prop := Reaches (machine.stepOn answer)

variable {machine answer}

theorem stepOn_running {state : σ} {loop : β} {data : γ} {device : δ} :
    machine.stepOn answer (.running state loop data, device) =
      ((machine.handler state loop data).runOn answer device).map
        fun result => (machine.follow state result.1.1 result.1.2, result.2) := by
  simp only [stepOn, handle, Program.runOn_bind]
  cases (machine.handler state loop data).runOn answer device <;> rfl

/-- A handler that ends with an event other than in the final state moves to the
registered successor. -/
theorem stepOn_event {state : σ} {loop : β} {data after : γ} {event : ε} {device last : δ}
    (ran : (machine.handler state loop data).runOn answer device = some ((after, .event event), last))
    (unfinished : state ≠ machine.finalState) :
    machine.stepOn answer (.running state loop data, device) =
      some (.running (machine.transition state event) machine.enter after, last) := by
  rw [stepOn_running, ran]
  simp [follow, unfinished]

theorem stepOn_again {state : σ} {loop next : β} {data after : γ} {device last : δ}
    (ran : (machine.handler state loop data).runOn answer device = some ((after, .again next), last)) :
    machine.stepOn answer (.running state loop data, device) = some (.running state next after, last) := by
  rw [stepOn_running, ran]
  rfl

theorem stepOn_final {loop : β} {data after : γ} {event : ε} {device last : δ}
    (ran : (machine.handler machine.finalState loop data).runOn answer device =
      some ((after, .event event), last)) :
    machine.stepOn answer (.running machine.finalState loop data, device) = some (.ended after, last) := by
  rw [stepOn_running, ran]
  simp [follow]

theorem ReachesOn.step {first second last : Config σ β γ × δ}
    (moved : machine.stepOn answer first = some second) (rest : machine.ReachesOn answer second last) :
    machine.ReachesOn answer first last :=
  Relation.ReflTransGen.head moved rest

theorem ReachesOn.trans {first second last : Config σ β γ × δ}
    (one : machine.ReachesOn answer first second) (two : machine.ReachesOn answer second last) :
    machine.ReachesOn answer first last :=
  Relation.ReflTransGen.trans one two

theorem ReachesOn.of_stuck {stuck last : Config σ β γ × δ} (waits : machine.stepOn answer stuck = none)
    (reached : machine.ReachesOn answer stuck last) : last = stuck := by
  rcases Relation.ReflTransGen.cases_head reached with same | ⟨next, moved, _⟩
  · exact same.symm
  · rw [Option.mem_def, waits] at moved
    cases moved

/-- Every other path of a run that ends leads to the same end. -/
theorem ReachesOn.to_end {start middle : Config σ β γ × δ} {data : γ} {device : δ}
    (ends : machine.ReachesOn answer start (.ended data, device)) (passes : machine.ReachesOn answer start middle) :
    machine.ReachesOn answer middle (.ended data, device) := by
  rcases reaches_total passes ends with later | later
  · exact later
  · rw [ReachesOn.of_stuck rfl later]
    exact .refl

/-- A run against a device ends in at most one way. -/
theorem ReachesOn.ended_unique {start : Config σ β γ × δ} {first second : γ} {device other : δ}
    (one : machine.ReachesOn answer start (.ended first, device))
    (two : machine.ReachesOn answer start (.ended second, other)) : first = second ∧ device = other := by
  have same := ReachesOn.of_stuck rfl (one.to_end two)
  cases same
  exact ⟨rfl, rfl⟩

end CpuCom.Interaction.FiniteStateMachine
