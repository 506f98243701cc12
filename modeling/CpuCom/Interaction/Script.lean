import CpuCom.Interaction.StateMachine

/-! Runs against a script, which lists the reply to each call in order. They are
computed, and each of them is a run for arbitrary replies. -/

namespace CpuCom.Interaction

variable {σ ε β κ ρ γ α : Type}

/-- The result of a program, the calls it has made and the replies that are left. -/
def Program.script : Program κ ρ α → List ρ → Option (α × List (κ × ρ) × List ρ)
  | .pure value, replies => some (value, [], replies)
  | .throw, _ => none
  | .call _ _, [] => none
  | .call request next, reply :: replies =>
      match (next reply).script replies with
      | none => none
      | some (value, trace, rest) => some (value, (request, reply) :: trace, rest)

theorem Program.returns_of_script {program : Program κ ρ α} {replies rest : List ρ} {value : α}
    {trace : List (κ × ρ)} (ran : program.script replies = some (value, trace, rest)) :
    program.Returns trace value := by
  induction program generalizing replies trace with
  | pure result =>
    cases ran
    exact ⟨rfl, rfl⟩
  | throw => cases ran
  | call request next ih =>
    cases replies with
    | nil => cases ran
    | cons reply replies =>
      rw [script] at ran
      cases continued : (next reply).script replies with
      | none =>
        rw [continued] at ran
        cases ran
      | some result =>
        rw [continued] at ran
        cases ran
        exact ⟨reply, _, rfl, ih reply continued⟩

namespace FiniteStateMachine

variable [DecidableEq σ] (machine : FiniteStateMachine σ ε β κ ρ γ)

/-- At most that many passes through handlers, as long as each of them passes the
check. -/
def checkedScript (check : Config σ β γ → List (κ × ρ) → Config σ β γ → Bool) :
    Nat → Config σ β γ → List ρ → Option (Config σ β γ × List (κ × ρ) × List ρ)
  | 0, config, replies => some (config, [], replies)
  | _ + 1, .ended data, replies => some (.ended data, [], replies)
  | count + 1, .running state loop data, replies =>
      match (machine.handle state loop data).script replies with
      | none => none
      | some (middle, trace, left) =>
          if check (.running state loop data) trace middle then
            match checkedScript check count middle left with
            | none => none
            | some (after, more, rest) => some (after, trace ++ more, rest)
          else none

abbrev script := machine.checkedScript fun _ _ _ => true

variable {machine} {check : Config σ β γ → List (κ × ρ) → Config σ β γ → Bool}

theorem run_of_script {count : Nat} {before after : Config σ β γ} {replies rest : List ρ} {trace : List (κ × ρ)}
    (ran : machine.checkedScript check count before replies = some (after, trace, rest)) :
    machine.Run (fun before trace after => check before trace after = true) before trace after := by
  induction count generalizing before replies trace with
  | zero =>
    cases ran
    exact .refl _
  | succ count ih =>
    cases before with
    | ended data =>
      cases ran
      exact .refl _
    | running state loop data =>
      rw [checkedScript] at ran
      cases handled : (machine.handle state loop data).script replies with
      | none =>
        rw [handled] at ran
        cases ran
      | some result =>
        obtain ⟨middle, first, left⟩ := result
        simp only [handled] at ran
        split at ran
        · next checked =>
          cases continued : machine.checkedScript check count middle left with
          | none =>
            rw [continued] at ran
            cases ran
          | some result =>
            obtain ⟨last, more, final⟩ := result
            rw [continued] at ran
            cases ran
            have step : machine.Step (.running state loop data) first middle :=
              ⟨state, loop, data, rfl, Program.returns_of_script handled⟩
            exact (Run.single step checked).append (ih continued)
        · cases ran

theorem runs_of_script {count : Nat} {before after : Config σ β γ} {replies rest : List ρ} {trace : List (κ × ρ)}
    (ran : machine.script count before replies = some (after, trace, rest)) : machine.Runs before trace after :=
  (run_of_script ran).runs

end FiniteStateMachine
end CpuCom.Interaction
