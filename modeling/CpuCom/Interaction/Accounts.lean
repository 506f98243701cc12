import CpuCom.Interaction.Tasks
import Mathlib.Algebra.BigOperators.Group.List.Basic
import Mathlib.Algebra.Order.BigOperators.Group.List
import Mathlib.Algebra.GroupWithZero.Nat
import Mathlib.Algebra.Order.Group.Nat

/-! What the tasks of a pool are about to do. A program flows by moves when every
call and its reply lead to a next call that the moves allow. Weights on what is due
add up over a pool, and one step changes the sum by one move. -/

namespace CpuCom.Interaction

variable {ι κ ρ α β δ μ : Type}

namespace Program

/-- The next call of the program. -/
def due : Program κ ρ α → Option κ
  | .call request _ => some request
  | _ => none

def Flows (moves : κ → ρ → Option κ → Prop) : Program κ ρ α → Prop
  | .call request next => ∀ reply, moves request reply (next reply).due ∧ (next reply).Flows moves
  | _ => True

@[simp] theorem due_pure {value : α} : (Program.pure value : Program κ ρ α).due = none := rfl

@[simp] theorem due_call {request : κ} {next : ρ → Program κ ρ α} :
    (Program.call request next).due = some request := rfl

@[simp] theorem flows_pure {moves : κ → ρ → Option κ → Prop} {value : α} :
    (Program.pure value : Program κ ρ α).Flows moves := trivial

/-- After the last call of its first part a sequence goes on with the first call of the rest. -/
theorem Flows.bind {moves : κ → ρ → Option κ → Prop} {program : Program κ ρ α} {next : α → Program κ ρ β}
    (flows : program.Flows moves) (rest : ∀ value, (next value).Flows moves)
    (goesOn : ∀ request reply value, moves request reply none → moves request reply (next value).due) :
    (program >>= next).Flows moves := by
  induction program with
  | pure value => exact rest value
  | throw => trivial
  | call request more ih =>
    intro reply
    obtain ⟨move, flows⟩ := flows reply
    refine ⟨?_, ih reply flows⟩
    change moves request reply (more reply >>= next).due
    cases later : more reply with
    | pure value =>
      rw [later] at move
      exact goesOn _ _ _ move
    | throw =>
      rw [later] at move
      exact move
    | call asked last =>
      rw [later] at move
      exact move

theorem Flows.leads {moves : κ → ρ → Option κ → Prop} {program rest : Program κ ρ α} {calls : List (κ × ρ)}
    (flows : program.Flows moves) (leads : program.Leads calls rest) : rest.Flows moves := by
  induction calls generalizing program with
  | nil => exact leads_nil.mp leads ▸ flows
  | cons call calls ih =>
    cases program with
    | pure value => exact leads.elim
    | throw => exact leads.elim
    | call request next =>
      obtain ⟨asked, reply⟩ := call
      obtain ⟨rfl, leads⟩ := leads
      exact ih (flows reply).2 leads

end Program

def Activity.due {program : ι → Program κ ρ Unit} (activity : Activity program) : Option κ := activity.rest.due

theorem Activity.Finished.due {program : ι → Program κ ρ Unit} {activity : Activity program}
    (finished : activity.Finished) :
    activity.due = none := by
  unfold Activity.due
  rw [finished]
  rfl

instance {program : ι → Program κ ρ Unit} (activity : Activity program) : Decidable activity.Finished :=
  match rest : activity.rest with
  | .pure _ => .isTrue rest
  | .throw => .isFalse fun finished => nomatch rest.symm.trans finished
  | .call _ _ => .isFalse fun finished => nomatch rest.symm.trans finished

namespace System
variable {system : System ι κ ρ δ}

/-- The sum of the weights of what is due. -/
def Pool.weigh (weight : ι → Option κ → Nat) (pool : system.Pool) : Nat :=
  (pool.tasks.map fun activity => weight activity.task activity.due).sum

def Pool.All (holds : ι → Option κ → Prop) (pool : system.Pool) : Prop :=
  ∀ activity ∈ pool.tasks, holds activity.task activity.due

/-- No task is under way. -/
def Pool.Idle (pool : system.Pool) : Prop := ∀ activity ∈ pool.tasks, activity.Finished

instance (pool : system.Pool) : Decidable pool.Idle :=
  inferInstanceAs (Decidable (∀ activity ∈ pool.tasks, activity.Finished))

theorem weigh_eq_zero {weight : ι → Option κ → Nat} {pool : system.Pool}
    (none : pool.All fun task due => weight task due = 0) : pool.weigh weight = 0 := by
  refine List.sum_eq_zero fun number counted => ?_
  obtain ⟨activity, member, rfl⟩ := List.mem_map.mp counted
  exact none activity member

theorem Pool.Idle.weigh {weight : ι → Option κ → Nat} {pool : system.Pool} (idle : pool.Idle)
    (done : ∀ task, weight task none = 0) : pool.weigh weight = 0 := by
  refine weigh_eq_zero fun activity member => ?_
  rw [(idle activity member).due]
  exact done activity.task

theorem weigh_pos {weight : ι → Option κ → Nat} {pool : system.Pool} {activity : Activity system.program}
    (member : activity ∈ pool.tasks) : weight activity.task activity.due ≤ pool.weigh weight :=
  List.single_le_sum (fun _ _ => Nat.zero_le _) _ (List.mem_map.mpr ⟨activity, member, rfl⟩)

theorem weigh_le {light heavy : ι → Option κ → Nat} {pool : system.Pool}
    (less : ∀ task due, light task due ≤ heavy task due) : pool.weigh light ≤ pool.weigh heavy :=
  List.sum_le_sum fun activity _ => less activity.task activity.due

theorem weigh_add {one two : ι → Option κ → Nat} {pool : system.Pool} :
    pool.weigh (fun task due => one task due + two task due) = pool.weigh one + pool.weigh two :=
  List.sum_map_add

/-- A task begins with what its program calls first. -/
theorem Step.begun {pool after : system.Pool} {task : ι} (step : system.Step pool (.begins task) after) :
    system.begins pool.tasks pool.shared task after.shared ∧
      (∀ weight, after.weigh weight = pool.weigh weight + weight task (system.program task).due) ∧
      ∀ holds, pool.All holds → holds task (system.program task).due → after.All holds := by
  cases step with
  | begins allowed =>
    refine ⟨allowed, fun weight => ?_, fun holds all first activity member => ?_⟩
    · simp [Pool.weigh, Activity.start, Activity.due]
    · rcases List.mem_append.mp member with member | member
      · exact all activity member
      · rw [List.mem_singleton.mp member]
        exact first

/-- A call moves one task from what was due to what is due next. -/
theorem Step.called {moves : ι → κ → ρ → Option κ → Prop} (flows : ∀ task, (system.program task).Flows (moves task))
    {pool after : system.Pool} {index : Nat} {request : κ} {reply : ρ}
    (step : system.Step pool (.calls index request reply) after) :
    ∃ task due, moves task request reply due ∧ pool.tasks[index]?.map (·.task) = some task ∧
      system.answers pool.shared request reply after.shared ∧
      (∀ weight, after.weigh weight + weight task (some request) = pool.weigh weight + weight task due) ∧
      ∀ holds, pool.All holds → holds task (some request) ∧ (holds task due → after.All holds) := by
  cases step with
  | @calls tasks shared _ activity _ next _ changed found due answered =>
    obtain ⟨inside, rfl⟩ := List.getElem?_eq_some_iff.mp found
    have was : tasks[index].due = some request := by rw [Activity.due, due]; rfl
    have flows := (flows tasks[index].task).leads tasks[index].leads
    rw [due] at flows
    refine ⟨tasks[index].task, (next reply).due, (flows reply).1, by rw [found]; rfl, answered, fun weight => ?_,
      fun holds all => ⟨?_, ?_⟩⟩
    · have sums (value : Nat) :=
        @List.sum_set _ _ (tasks.map fun activity => weight activity.task activity.due) index value
      have old := sums (weight tasks[index].task tasks[index].due)
      have new := sums (weight tasks[index].task (next reply).due)
      have same : (tasks.map fun activity => weight activity.task activity.due).set index
          (weight tasks[index].task tasks[index].due) =
          tasks.map fun activity => weight activity.task activity.due := by
        rw [← List.map_set, List.set_getElem_self]
      have long : index < (tasks.map fun activity => weight activity.task activity.due).length := by simpa using inside
      rw [same, if_pos long] at old
      rw [if_pos long] at new
      rw [← was]
      simp only [Pool.weigh, List.map_set, Activity.advance, Activity.due] at *
      omega
    · exact was ▸ all _ (List.getElem_mem inside)
    · intro last other member
      rcases List.mem_or_eq_of_mem_set member with member | rfl
      · exact all other member
      · exact last

end System
end CpuCom.Interaction
