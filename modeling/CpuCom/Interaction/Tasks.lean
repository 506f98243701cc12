import CpuCom.Interaction.Program
import Mathlib.Data.List.Induction

/-! Tasks that run side by side over one shared state. Every task runs a program,
each of whose calls is one step that is answered from the shared state and may
change it. The calls of all tasks interleave in any order. -/

namespace CpuCom.Interaction

variable {ι κ ρ α β δ : Type}

namespace Program

/-- The replies recorded lead from one program to what is left of it. -/
def Leads : Program κ ρ α → List (κ × ρ) → Program κ ρ α → Prop
  | program, [], rest => program = rest
  | .call request next, (asked, reply) :: calls, rest => asked = request ∧ (next reply).Leads calls rest
  | _, _ :: _, _ => False

@[simp] theorem leads_nil {program rest : Program κ ρ α} : program.Leads [] rest ↔ program = rest := by
  cases program <;> rfl

@[simp] theorem leads_pure {value : α} {call : κ × ρ} {calls : List (κ × ρ)} {rest : Program κ ρ α} :
    ¬ (Program.pure value).Leads (call :: calls) rest := id

@[simp] theorem leads_call {request asked : κ} {reply : ρ} {next : ρ → Program κ ρ α} {calls : List (κ × ρ)}
    {rest : Program κ ρ α} :
    (Program.call request next).Leads ((asked, reply) :: calls) rest ↔
      asked = request ∧ (next reply).Leads calls rest :=
  Iff.rfl

theorem Leads.snoc {program : Program κ ρ α} {request : κ} {next : ρ → Program κ ρ α} {calls : List (κ × ρ)}
    (leads : program.Leads calls (.call request next)) (reply : ρ) :
    program.Leads (calls ++ [(request, reply)]) (next reply) := by
  induction calls generalizing program with
  | nil =>
    rw [leads_nil] at leads
    subst leads
    exact ⟨rfl, leads_nil.mpr rfl⟩
  | cons call calls ih =>
    cases program with
    | pure value => exact leads.elim
    | throw => exact leads.elim
    | call asked rest => exact ⟨leads.1, ih leads.2⟩

theorem returns_of_leads {program : Program κ ρ α} {value : α} {calls : List (κ × ρ)}
    (leads : program.Leads calls (.pure value)) : program.Returns calls value := by
  induction calls generalizing program with
  | nil =>
    rw [leads_nil] at leads
    subst leads
    exact ⟨rfl, rfl⟩
  | cons call calls ih =>
    cases program with
    | pure value => exact leads.elim
    | throw => exact leads.elim
    | call asked rest =>
      obtain ⟨request, reply⟩ := call
      obtain ⟨rfl, leads⟩ := leads
      exact ⟨reply, calls, rfl, ih leads⟩

/-- A sequence is in its first program, or past it. -/
theorem leads_bind {program : Program κ ρ α} {next : α → Program κ ρ β} {calls : List (κ × ρ)} {rest : Program κ ρ β}
    (leads : (program >>= next).Leads calls rest) :
    (∃ left, program.Leads calls left ∧ rest = left >>= next) ∨
      ∃ value first last, calls = first ++ last ∧ program.Returns first value ∧ (next value).Leads last rest := by
  induction program generalizing calls with
  | pure value => exact .inr ⟨value, [], calls, rfl, ⟨rfl, rfl⟩, leads⟩
  | throw =>
    cases calls with
    | nil => exact .inl ⟨.throw, leads_nil.mpr rfl, (leads_nil.mp leads).symm⟩
    | cons call calls => exact leads.elim
  | call request more ih =>
    cases calls with
    | nil => exact .inl ⟨.call request more, leads_nil.mpr rfl, (leads_nil.mp leads).symm⟩
    | cons call calls =>
      obtain ⟨asked, reply⟩ := call
      obtain ⟨rfl, leads⟩ := leads
      rcases ih reply leads with ⟨left, led, rfl⟩ | ⟨value, first, last, rfl, returned, leads⟩
      · exact .inl ⟨left, ⟨rfl, led⟩, rfl⟩
      · exact .inr ⟨value, (asked, reply) :: first, last, rfl, ⟨reply, first, rfl, returned⟩, leads⟩

/-- Every call of the program is allowed. -/
def Only (allowed : κ → Prop) : Program κ ρ α → Prop
  | .call request next => allowed request ∧ ∀ reply, (next reply).Only allowed
  | _ => True

@[simp] theorem only_pure {allowed : κ → Prop} {value : α} :
    (Program.pure value : Program κ ρ α).Only allowed := trivial

@[simp] theorem only_call {allowed : κ → Prop} {request : κ} {next : ρ → Program κ ρ α} :
    (Program.call request next).Only allowed ↔ allowed request ∧ ∀ reply, (next reply).Only allowed := Iff.rfl

theorem Only.bind {allowed : κ → Prop} {program : Program κ ρ α} {next : α → Program κ ρ β}
    (first : program.Only allowed) (rest : ∀ value, (next value).Only allowed) : (program >>= next).Only allowed := by
  induction program with
  | pure value => exact rest value
  | throw => trivial
  | call request more ih => exact ⟨first.1, fun reply => ih reply (first.2 reply)⟩

theorem Only.leads {allowed : κ → Prop} {program rest : Program κ ρ α} {calls : List (κ × ρ)}
    (only : program.Only allowed) (leads : program.Leads calls rest) : ∀ call ∈ calls, allowed call.1 := by
  induction calls generalizing program with
  | nil => simp
  | cons call calls ih =>
    cases program with
    | pure value => exact leads.elim
    | throw => exact leads.elim
    | call request next =>
      obtain ⟨asked, reply⟩ := call
      obtain ⟨rfl, leads⟩ := leads
      intro call member
      rcases List.mem_cons.mp member with rfl | member
      · exact only.1
      · exact ih (only.2 reply) leads call member

/-- What the program does as far as it is seen, whatever the replies, unless it throws. -/
def Makes (view : κ → Option β) : List β → Program κ ρ α → Prop
  | expected, .pure _ => expected = []
  | _, .throw => True
  | expected, .call request next =>
      match view request with
      | none => ∀ reply, (next reply).Makes view expected
      | some seen => ∃ rest, expected = seen :: rest ∧ ∀ reply, (next reply).Makes view rest

theorem makes_unseen {view : κ → Option β} {expected : List β} {request : κ} {next : ρ → Program κ ρ α}
    (unseen : view request = none) :
    (Program.call request next).Makes view expected ↔ ∀ reply, (next reply).Makes view expected := by
  rw [Makes, unseen]

theorem makes_seen {view : κ → Option β} {seen : β} {rest : List β} {request : κ} {next : ρ → Program κ ρ α}
    (sees : view request = some seen) :
    (Program.call request next).Makes view (seen :: rest) ↔ ∀ reply, (next reply).Makes view rest := by
  rw [Makes, sees]
  constructor
  · rintro ⟨left, same, makes⟩
    obtain ⟨-, rfl⟩ := List.cons.inj same
    exact makes
  · exact fun makes => ⟨rest, rfl, makes⟩

theorem Makes.bind {γ : Type} {view : κ → Option γ} {first rest : List γ} {program : Program κ ρ α}
    {next : α → Program κ ρ β} (makes : program.Makes view first) (more : ∀ value, (next value).Makes view rest) :
    (program >>= next).Makes view (first ++ rest) := by
  induction program generalizing first with
  | pure value =>
    obtain rfl : first = [] := makes
    exact more value
  | throw => trivial
  | call request after ih =>
    cases sees : view request with
    | none => exact (makes_unseen sees).mpr fun reply => ih reply ((makes_unseen sees).mp makes reply)
    | some seen =>
      rw [Makes, sees] at makes
      obtain ⟨left, rfl, makes⟩ := makes
      exact (makes_seen sees).mpr fun reply => ih reply (makes reply)

/-- What has been seen so far, and what is left of it. -/
theorem Makes.leads {view : κ → Option β} {expected : List β} {program rest : Program κ ρ α} {calls : List (κ × ρ)}
    (makes : program.Makes view expected) (leads : program.Leads calls rest) :
    ∃ left, expected = calls.filterMap (view ·.1) ++ left ∧ rest.Makes view left := by
  induction calls generalizing program expected with
  | nil => exact ⟨expected, rfl, leads_nil.mp leads ▸ makes⟩
  | cons call calls ih =>
    cases program with
    | pure value => exact leads.elim
    | throw => exact leads.elim
    | call request next =>
      obtain ⟨asked, reply⟩ := call
      obtain ⟨rfl, leads⟩ := leads
      cases sees : view asked with
      | none =>
        obtain ⟨left, same, more⟩ := ih ((makes_unseen sees).mp makes reply) leads
        refine ⟨left, ?_, more⟩
        rw [same, List.filterMap_cons]
        dsimp only
        rw [sees]
      | some seen =>
        rw [Makes, sees] at makes
        obtain ⟨later, rfl, makes⟩ := makes
        obtain ⟨left, rfl, more⟩ := ih (makes reply) leads
        refine ⟨left, ?_, more⟩
        rw [List.filterMap_cons]
        dsimp only
        rw [sees]
        rfl

end Program

/-- A task, the calls that it has made, and what is left of its program. -/
structure Activity (program : ι → Program κ ρ Unit) where
  task : ι
  made : List (κ × ρ)
  rest : Program κ ρ Unit
  leads : (program task).Leads made rest

namespace Activity
variable {program : ι → Program κ ρ Unit}

def start (program : ι → Program κ ρ Unit) (task : ι) : Activity program :=
  ⟨task, [], program task, Program.leads_nil.mpr rfl⟩

/-- The activity after its next call. -/
def advance (activity : Activity program) {request : κ} {next : ρ → Program κ ρ Unit}
    (due : activity.rest = .call request next) (reply : ρ) : Activity program :=
  ⟨activity.task, activity.made ++ [(request, reply)], next reply, (due ▸ activity.leads).snoc reply⟩

def Finished (activity : Activity program) : Prop := activity.rest = .pure ()

theorem Finished.returns {activity : Activity program} (finished : activity.Finished) :
    (program activity.task).Returns activity.made () := Program.returns_of_leads (finished ▸ activity.leads)

/-- Of what it is to do an activity has done the first part, and all when it has finished. -/
theorem makes {activity : Activity program} {view : κ → Option β} {expected : List β}
    (makes : (program activity.task).Makes view expected) :
    activity.made.filterMap (view ·.1) <+: expected ∧
      (activity.Finished → activity.made.filterMap (view ·.1) = expected) := by
  obtain ⟨left, rfl, rest⟩ := makes.leads activity.leads
  refine ⟨List.prefix_append .., fun finished => ?_⟩
  rw [Finished] at finished
  rw [finished] at rest
  obtain rfl : left = [] := rest
  exact (List.append_nil _).symm

end Activity

/-- What each task runs, when a task may begin in view of the others, and how the
shared state answers a call. Beginning a task may change the shared state as well. -/
structure System (ι κ ρ δ : Type) where
  program : ι → Program κ ρ Unit
  begins : List (Activity program) → δ → ι → δ → Prop
  answers : δ → κ → ρ → δ → Prop

inductive Event (ι κ ρ : Type) where
  | begins (task : ι)
  | calls (index : Nat) (request : κ) (reply : ρ)
deriving DecidableEq

namespace System

variable {system : System ι κ ρ δ}

/-- The activities in the order in which they have begun. -/
structure Pool (system : System ι κ ρ δ) where
  tasks : List (Activity system.program)
  shared : δ

inductive Step (system : System ι κ ρ δ) : system.Pool → Event ι κ ρ → system.Pool → Prop where
  | begins {tasks shared task after} (allowed : system.begins tasks shared task after) :
      Step system ⟨tasks, shared⟩ (.begins task) ⟨tasks ++ [Activity.start system.program task], after⟩
  | calls {tasks shared index activity request next reply after} (found : tasks[index]? = some activity)
      (due : activity.rest = .call request next) (answered : system.answers shared request reply after) :
      Step system ⟨tasks, shared⟩ (.calls index request reply) ⟨tasks.set index (activity.advance due reply), after⟩

/-- Runs with everything that has happened in them. -/
inductive Reaches (system : System ι κ ρ δ) (start : system.Pool) : List (Event ι κ ρ) → system.Pool → Prop where
  | refl : Reaches system start [] start
  | step {trace pool event after} (reached : Reaches system start trace pool) (step : system.Step pool event after) :
      Reaches system start (trace ++ [event]) after

/-- Runs in which every step meets a condition on what is before it. -/
inductive Keeps (system : System ι κ ρ δ) (meets : system.Pool → Event ι κ ρ → Prop) (start : system.Pool) :
    List (Event ι κ ρ) → system.Pool → Prop where
  | refl : Keeps system meets start [] start
  | step {trace pool event after} (kept : Keeps system meets start trace pool) (step : system.Step pool event after)
      (met : meets pool event) : Keeps system meets start (trace ++ [event]) after

/-- A relation between what has happened and the pool holds in every such run if
every step extends it. -/
theorem Keeps.invariant {meets : system.Pool → Event ι κ ρ → Prop} {start pool : system.Pool}
    {trace : List (Event ι κ ρ)}
    {holds : List (Event ι κ ρ) → system.Pool → Prop} (kept : system.Keeps meets start trace pool)
    (initial : holds [] start)
    (preserved : ∀ trace pool event after, holds trace pool → system.Step pool event after → meets pool event →
      holds (trace ++ [event]) after) : holds trace pool := by
  induction kept with
  | refl => exact initial
  | step _ step met ih => exact preserved _ _ _ _ ih step met

theorem Reaches.append {start middle pool : system.Pool} {first rest : List (Event ι κ ρ)}
    (reached : system.Reaches start first middle) (continued : system.Reaches middle rest pool) :
    system.Reaches start (first ++ rest) pool := by
  induction continued with
  | refl => rwa [List.append_nil]
  | step _ step ih =>
    rw [← List.append_assoc]
    exact ih.step step

/-- Every part of a run is a run. -/
theorem Reaches.split {start pool : system.Pool} {first rest : List (Event ι κ ρ)}
    (reached : system.Reaches start (first ++ rest) pool) :
    ∃ middle, system.Reaches start first middle ∧ system.Reaches middle rest pool := by
  induction rest using List.reverseRecOn generalizing pool with
  | nil => exact ⟨pool, by rwa [List.append_nil] at reached, .refl⟩
  | append_singleton rest event ih =>
    rw [← List.append_assoc] at reached
    generalize same : first ++ rest ++ [event] = trace at reached
    cases reached with
    | refl => exact absurd same (by simp)
    | step reached step =>
      obtain ⟨rfl, last⟩ := List.append_inj' same rfl
      obtain rfl := List.singleton_inj.mp last
      obtain ⟨middle, one, two⟩ := ih reached
      exact ⟨middle, one, two.step step⟩

/-- A run at one of its events. -/
theorem Reaches.event {start pool : system.Pool} {first rest : List (Event ι κ ρ)} {event : Event ι κ ρ}
    (reached : system.Reaches start (first ++ event :: rest) pool) :
    ∃ before after, system.Reaches start first before ∧ system.Step before event after := by
  rw [List.append_cons] at reached
  obtain ⟨after, reached, -⟩ := reached.split
  generalize same : first ++ [event] = trace at reached
  cases reached with
  | refl => exact absurd same (by simp)
  | step reached step =>
    obtain ⟨rfl, last⟩ := List.append_inj' same rfl
    obtain rfl := List.singleton_inj.mp last
    exact ⟨_, _, reached, step⟩

/-- The calls that one task has made. -/
def own (index : Nat) (trace : List (Event ι κ ρ)) : List (κ × ρ) :=
  trace.filterMap fun
    | .calls caller request reply => if caller = index then some (request, reply) else none
    | .begins _ => none

/-- The tasks that have begun, in order. -/
def begun (trace : List (Event ι κ ρ)) : List ι :=
  trace.filterMap fun
    | .begins task => some task
    | .calls _ _ _ => none

@[simp] theorem own_begins (index : Nat) (trace : List (Event ι κ ρ)) (task : ι) :
    own index (trace ++ [.begins task]) = own index trace := by
  simp [own]

@[simp] theorem own_calls (index caller : Nat) (trace : List (Event ι κ ρ)) (request : κ) (reply : ρ) :
    own index (trace ++ [.calls caller request reply]) =
      own index trace ++ if caller = index then [(request, reply)] else [] := by
  by_cases same : caller = index <;> simp [own, same]

theorem own_at (index : Nat) (before after : List (Event ι κ ρ)) (request : κ) (reply : ρ) :
    own index (before ++ .calls index request reply :: after) = own index before ++
      (request, reply) :: own index after := by
  simp [own]

theorem mem_own {index : Nat} {trace : List (Event ι κ ρ)} {request : κ} {reply : ρ} :
    (request, reply) ∈ own index trace ↔ .calls index request reply ∈ trace := by
  unfold own
  rw [List.mem_filterMap]
  constructor
  · rintro ⟨event, member, made⟩
    cases event with
    | begins task => exact nomatch made
    | calls caller asked answer =>
      obtain ⟨rfl, same⟩ := Option.ite_none_right_eq_some.mp made
      obtain ⟨rfl, rfl⟩ := Prod.mk.inj (Option.some.inj same)
      exact member
  · intro member
    exact ⟨_, member, if_pos rfl⟩

/-- What the activity with this number has done, if it has begun. -/
def Pool.made (pool : system.Pool) (index : Nat) : List (κ × ρ) := (pool.tasks[index]?.map (·.made)).getD []

/-- Every activity has made its own calls and no others. -/
theorem Reaches.made {shared : δ} {pool : system.Pool} {trace : List (Event ι κ ρ)}
    (reached : system.Reaches ⟨[], shared⟩ trace pool) (index : Nat) : pool.made index = own index trace := by
  induction reached with
  | refl => rfl
  | @step trace pool event after reached step ih =>
    unfold Pool.made at *
    cases step with
    | @begins tasks shared task after allowed =>
      rw [own_begins, ← ih]
      rcases Nat.lt_trichotomy index tasks.length with inside | rfl | beyond
      · rw [List.getElem?_append_left inside]
      · simp [Activity.start]
      · rw [List.getElem?_eq_none (by simpa using Nat.succ_le_of_lt beyond),
          List.getElem?_eq_none (Nat.le_of_lt beyond)]
    | @calls tasks shared caller activity request next reply after found due answered =>
      rw [own_calls, ← ih]
      obtain ⟨inside, rfl⟩ := List.getElem?_eq_some_iff.mp found
      by_cases same : caller = index
      · subst same
        simp [inside, Activity.advance]
      · simp [same, List.getElem?_set_ne same]

theorem made_of_found {shared : δ} {pool : system.Pool} {trace : List (Event ι κ ρ)} {index : Nat}
    {activity : Activity system.program} (reached : system.Reaches ⟨[], shared⟩ trace pool)
    (found : pool.tasks[index]? = some activity) : activity.made = own index trace := by
  have made := reached.made index
  rwa [Pool.made, found] at made

theorem Reaches.activity {shared : δ} {pool : system.Pool} {trace : List (Event ι κ ρ)} {index : Nat} {request : κ}
    {reply : ρ} (reached : system.Reaches ⟨[], shared⟩ trace pool) (called : .calls index request reply ∈ trace) :
    ∃ activity, pool.tasks[index]? = some activity ∧ activity.made = own index trace := by
  have made := reached.made index
  unfold Pool.made at made
  cases found : pool.tasks[index]? with
  | none =>
    rw [found] at made
    have member := mem_own.mpr called
    rw [← made] at member
    exact nomatch member
  | some activity =>
    rw [found] at made
    exact ⟨activity, rfl, made⟩

theorem Reaches.begun {shared : δ} {pool : system.Pool} {trace : List (Event ι κ ρ)}
    (reached : system.Reaches ⟨[], shared⟩ trace pool) : pool.tasks.map (·.task) = begun trace := by
  induction reached with
  | refl => rfl
  | @step trace pool event after reached step ih =>
    unfold System.begun at *
    cases step with
    | begins allowed => simp [← ih, Activity.start]
    | @calls tasks shared caller activity request next reply after found due answered =>
      obtain ⟨inside, rfl⟩ := List.getElem?_eq_some_iff.mp found
      rw [List.filterMap_append, ← ih, List.map_set]
      have kept := @List.set_getElem_self _ (tasks.map (·.task)) caller (by simpa using inside)
      rw [List.getElem_map] at kept
      simpa [Activity.advance] using kept

/-- Whoever has finished makes no more calls. -/
theorem Reaches.finished {start pool : system.Pool} {rest : List (Event ι κ ρ)} {index : Nat}
    {activity : Activity system.program} (reached : system.Reaches start rest pool)
    (found : start.tasks[index]? = some activity) (finished : activity.Finished) :
    pool.tasks[index]? = some activity ∧ own index rest = [] := by
  induction reached with
  | refl => exact ⟨found, rfl⟩
  | @step rest pool event after reached step ih =>
    obtain ⟨there, silent⟩ := ih
    cases step with
    | @begins tasks shared task after allowed =>
      obtain ⟨inside, -⟩ := List.getElem?_eq_some_iff.mp there
      refine ⟨?_, (own_begins ..).trans silent⟩
      rw [List.getElem?_append_left inside]
      exact there
    | @calls tasks shared caller other request next reply after caught due answered =>
      have apart : caller ≠ index := by
        rintro rfl
        obtain rfl := Option.some.inj (caught.symm.trans there)
        exact nomatch due.symm.trans finished
      refine ⟨(List.getElem?_set_ne apart).trans there, ?_⟩
      rw [own_calls, if_neg apart, silent]
      rfl

end System
end CpuCom.Interaction
