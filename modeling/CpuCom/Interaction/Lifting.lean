import CpuCom.Interaction.Accounts

/-! A program among the calls of a larger system. -/

namespace CpuCom.Interaction.Program

variable {κ τ ρ α : Type}

/-- The program with its calls seen as calls of the larger system. -/
def lift (wider : κ → τ) : Program κ ρ α → Program τ ρ α
  | .pure value => .pure value
  | .throw => .throw
  | .call request next => .call (wider request) fun reply => (next reply).lift wider

@[simp] theorem due_lift {wider : κ → τ} {program : Program κ ρ α} : (program.lift wider).due = program.due.map wider := by
  cases program <;> rfl

theorem Flows.lift {wider : κ → τ} {moves : κ → ρ → Option κ → Prop} {allowed : τ → ρ → Option τ → Prop}
    {program : Program κ ρ α} (flows : program.Flows moves)
    (widens : ∀ request reply due, moves request reply due → allowed (wider request) reply (due.map wider)) :
    (program.lift wider).Flows allowed := by
  induction program with
  | pure value => trivial
  | throw => trivial
  | call request next ih =>
    intro reply
    obtain ⟨move, flows⟩ := flows reply
    exact ⟨due_lift ▸ widens _ _ _ move, ih reply flows⟩

/-- Where the program is lifted without an exception it ends without one. -/
def Throwless : Program κ ρ α → Prop
  | .pure _ => True
  | .throw => False
  | .call _ next => ∀ reply, (next reply).Throwless

theorem Throwless.lift {wider : κ → τ} {program : Program κ ρ α} (throwless : program.Throwless) :
    (program.lift wider).Throwless := by
  induction program with
  | pure value => trivial
  | throw => exact throwless
  | call request next ih => exact fun reply => ih reply (throwless reply)

theorem Throwless.leads {program : Program κ ρ α} {calls : List (κ × ρ)} {rest : Program κ ρ α}
    (throwless : program.Throwless) (leads : program.Leads calls rest) : rest.Throwless := by
  induction calls generalizing program with
  | nil => exact leads_nil.mp leads ▸ throwless
  | cons call calls ih =>
    cases program with
    | pure value => exact leads.elim
    | throw => exact leads.elim
    | call request next =>
      obtain ⟨asked, reply⟩ := call
      obtain ⟨rfl, leads⟩ := leads
      exact ih (throwless reply) leads

end CpuCom.Interaction.Program
