import CpuCom.Interaction.Progress
import CpuCom.Interaction.Tasks

/-! A task that runs program after program. The calls that it has made so far are those
of whole programs and of the beginning of the one under way. A fact about the calls that
holds after each program and of every beginning holds at any time. -/

namespace CpuCom.Interaction

variable {θ κ ρ α : Type}

namespace Program

theorem Completes.leads {program rest : Program κ ρ α} {made : List (κ × ρ)} (completes : program.Completes)
    (leads : program.Leads made rest) : rest.Completes := by
  induction made generalizing program with
  | nil => exact leads_nil.mp leads ▸ completes
  | cons call made ih =>
    cases program with
    | pure value => exact leads.elim
    | throw => exact leads.elim
    | call request next => exact ih (completes call.2) leads.2

/-- What is left of a program can be finished with replies of a certain kind. -/
theorem Completes.finish {program rest : Program κ ρ α} {made : List (κ × ρ)} {allowed : κ × ρ → Prop}
    (completes : program.Completes) (leads : program.Leads made rest)
    (answered : ∀ request, ∃ reply, allowed (request, reply)) :
    ∃ value more, program.Returns (made ++ more) value ∧ ∀ call ∈ more, allowed call := by
  have left := completes.leads leads
  induction rest generalizing made with
  | pure value => exact ⟨value, [], by rw [List.append_nil]; exact returns_of_leads leads, nofun⟩
  | throw => exact left.elim
  | call request next ih =>
    obtain ⟨reply, replied⟩ := answered request
    obtain ⟨value, more, returned, rest⟩ := ih reply (leads.snoc reply) (left reply)
    rw [← List.append_cons] at returned
    exact ⟨value, (request, reply) :: more, returned, List.forall_mem_cons.mpr ⟨replied, rest⟩⟩

end Program

/-- The calls of whole programs, each entered from the value of the one before. -/
inductive Rounds (enters : θ → Program κ ρ θ → Prop) (start : θ) : List (κ × ρ) → θ → Prop where
  | start : Rounds enters start [] start
  | next {history value program calls after} (rounds : Rounds enters start history value)
      (entered : enters value program) (returned : program.Returns calls after) :
      Rounds enters start (history ++ calls) after

/-- The calls up to now, and what is left of the program under way. -/
inductive Underway (enters : θ → Program κ ρ θ → Prop) (start : θ) : List (κ × ρ) → Program κ ρ θ → Prop where
  | between {history value} (rounds : Rounds enters start history value) : Underway enters start history (.pure value)
  | inside {history value program made rest} (rounds : Rounds enters start history value)
      (entered : enters value program) (leads : program.Leads made rest) :
      Underway enters start (history ++ made) rest

variable {enters : θ → Program κ ρ θ → Prop} {start value : θ} {history : List (κ × ρ)} {program : Program κ ρ θ}

theorem Underway.call {request : κ} {next : ρ → Program κ ρ θ}
    (underway : Underway enters start history (.call request next)) (reply : ρ) :
    Underway enters start (history ++ [(request, reply)]) (next reply) := by
  cases underway with
  | inside rounds entered leads =>
    rw [List.append_assoc]
    exact .inside rounds entered (leads.snoc reply)

theorem Underway.enter (underway : Underway enters start history (.pure value)) (entered : enters value program) :
    Underway enters start history program := by
  have rounds : Rounds enters start history value := by
    cases underway with
    | between rounds => exact rounds
    | inside rounds entered leads => exact rounds.next entered (Program.returns_of_leads leads)
  have begun := Underway.inside rounds entered (Program.leads_nil.mpr rfl)
  rwa [List.append_nil] at begun

theorem Rounds.invariant (allowed : κ × ρ → Prop) (holds : List (κ × ρ) → θ → Prop)
    (rounds : Rounds enters start history value) (replies : ∀ call ∈ history, allowed call) (initial : holds [] start)
    (preserved : ∀ {history value program calls after}, holds history value → enters value program →
      program.Returns calls after → (∀ call ∈ calls, allowed call) → holds (history ++ calls) after) :
    holds history value := by
  induction rounds with
  | start => exact initial
  | next rounds entered returned ih =>
    obtain ⟨earlier, now⟩ := List.forall_mem_append.mp replies
    exact preserved (ih earlier) entered returned now

/-- A program that has been entered throws at once or not at all. -/
theorem Underway.holds (allowed : κ × ρ → Prop) {fact : List (κ × ρ) → Prop}
    (underway : Underway enters start history program) (replies : ∀ call ∈ history, allowed call)
    (completes : ∀ value program, enters value program → program.Completes ∨ program = .throw)
    (answered : ∀ request, ∃ reply, allowed (request, reply))
    (shorter : ∀ first rest, fact (first ++ rest) → fact first)
    (whole : ∀ {history value}, Rounds enters start history value → (∀ call ∈ history, allowed call) → fact history) :
    fact history := by
  cases underway with
  | between rounds => exact whole rounds replies
  | @inside history value program made rest rounds entered leads =>
    obtain ⟨earlier, now⟩ := List.forall_mem_append.mp replies
    rcases completes value program entered with completes | rfl
    · obtain ⟨after, more, returned, granted⟩ := completes.finish leads answered
      apply shorter (history ++ made) more
      rw [List.append_assoc]
      apply whole (rounds.next entered returned)
      exact List.forall_mem_append.mpr ⟨earlier, List.forall_mem_append.mpr ⟨now, granted⟩⟩
    · cases made with
      | nil =>
        rw [List.append_nil]
        exact whole rounds earlier
      | cons call made => exact leads.elim

end CpuCom.Interaction
