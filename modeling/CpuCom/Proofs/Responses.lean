import CpuCom.Proofs.LibraryCalls

/-! Every future ends with a value, whoever else uses the library and however its
destruction is interleaved with its users, its handlers and the responses. -/

namespace CpuCom.Messaging.Library
open Interaction System Program

variable {Id F : Type} {trace : List (Event Id F)} {id : Id}

/-- The destructor has given every promise a value. -/
def Satisfied (trace : List (Event Id F)) : Prop := ∃ index reply, .calls index .satisfyRequests reply ∈ trace

@[simp] theorem satisfied_begins {task : LibraryTask Id F} :
    Satisfied (trace ++ [.begins task]) ↔ Satisfied trace := by
  simp [Satisfied]

@[simp] theorem satisfied_calls {index : Nat} {call : LibraryCall Id F} {reply : ClientReply F} :
    Satisfied (trace ++ [.calls index call reply]) ↔ Satisfied trace ∨ call = .satisfyRequests := by
  constructor
  · rintro ⟨caller, answer, member⟩
    rcases List.mem_append.mp member with member | last
    · exact .inl ⟨caller, answer, member⟩
    · cases List.mem_singleton.mp last
      exact .inr rfl
  · rintro (⟨caller, answer, member⟩ | rfl)
    · exact ⟨caller, answer, List.mem_append_left _ member⟩
    · exact ⟨index, reply, List.mem_append_right _ (List.mem_singleton_self _)⟩

def satisfying : LibraryTask Id F → Option (LibraryCall Id F) → Nat
  | _, some .satisfyRequests => 1
  | _, _ => 0

theorem satisfying_move {task : LibraryTask Id F} {call : LibraryCall Id F} {reply : ClientReply F}
    {due : Option (LibraryCall Id F)} (move : LibraryMove task call reply due) : satisfying task due = 0 := by
  have plain (due : Option (ClientCall Id F)) : satisfying task (due.map .client) = 0 := by cases due <;> rfl
  cases move with
  | function move => exact plain _
  | released move => exact plain _
  | @member member _ due next =>
    cases due with
    | none => rfl
    | some call =>
      obtain ⟨other, rfl⟩ := next call rfl
      rfl
  | _ => rfl

variable [LinearOrder Id] {pool after : (@system Id F _).Pool}

def making (id : Id) (task : LibraryTask Id F) (_ : Option (LibraryCall Id F)) : Nat :=
  if newId task = some id then 1 else 0

def registering (id : Id) : LibraryTask Id F → Option (LibraryCall Id F) → Nat
  | .function (.request new _ _ _), some (.client (.addRequest _)) => if new = id then 1 else 0
  | _, _ => 0

theorem registering_move {task : LibraryTask Id F} {call : LibraryCall Id F} {reply : ClientReply F}
    {due : Option (LibraryCall Id F)} (move : LibraryMove task call reply due) : registering id task due = 0 := by
  cases move with
  | function move => cases move <;> rfl
  | _ => rfl

theorem adder {task : LibraryTask Id F} {reply : ClientReply F} {due : Option (LibraryCall Id F)}
    (move : LibraryMove task (.client (.addRequest id)) reply due) :
    registering id task (some (.client (.addRequest id))) = 1 ∧ OfUser task := by
  cases move with
  | function move =>
    cases move with
    | requested => exact ⟨if_pos rfl, trivial⟩
  | released move => cases move

def first : LibraryTask Id F → LibraryCall Id F
  | .function task => .client (Client.first task)
  | .releaseResponse _ => .lockCancelFunc
  | .destroy => .satisfyRequests

theorem system_due (task : LibraryTask Id F) : ((@system Id F _).program task).due = some (first task) := by
  cases task with
  | function task => exact Program.due_lift.trans (congrArg _ (Client.program_due task))
  | _ => rfl

theorem registering_first (id : Id) (task : LibraryTask Id F) :
    registering id task (some (first task)) ≤ making id task (some (first task)) := by
  cases task with
  | function task =>
    cases task with
    | request new => exact Nat.le_of_eq (by simp [registering, making, first, Client.first, newId, Client.newId])
    | _ => exact Nat.zero_le _
  | _ => exact Nat.zero_le _

theorem begun_iff (ran : Runs trace pool) (task : LibraryTask Id F) :
    .begins task ∈ trace ↔ ∃ activity ∈ pool.tasks, activity.task = task := by
  obtain ⟨errorCallback, reached⟩ := ran
  have listed : task ∈ pool.tasks.map (·.task) ↔ task ∈ begun trace := by rw [reached.begun]
  rw [List.mem_map] at listed
  rw [listed, begun, List.mem_filterMap]
  constructor
  · exact fun member => ⟨_, member, rfl⟩
  · rintro ⟨event, member, same⟩
    cases event with
    | begins other => exact Option.some.inj same ▸ member
    | calls index call reply => exact nomatch same

/-- A value is the data of a response message, set by the handler of that message, or empty
and from the destructor. -/
def Comes (trace : List (Event Id F)) (id : Id) (data : Data) : Prop :=
  (∃ index reply, (begun trace)[index]? = some (.function (.message (.requestResponse id data))) ∧
    .calls index (.client (.fulfil id data)) reply ∈ trace) ∨ data = [] ∧ Satisfied trace

omit [LinearOrder Id] in
private theorem begun_getElem?_append {index : Nat} {task : LibraryTask Id F} {trace : List (Event Id F)}
    (found : (begun trace)[index]? = some task) (later : List (Event Id F)) :
    (begun (trace ++ later))[index]? = some task := by
  obtain ⟨inside, -⟩ := List.getElem?_eq_some_iff.mp found
  rw [begun, List.filterMap_append]
  exact (List.getElem?_append_left inside).trans found

omit [LinearOrder Id] in
theorem Comes.append {data : Data} (comes : Comes trace id data) (later : List (Event Id F)) :
    Comes (trace ++ later) id data := by
  rcases comes with ⟨index, reply, message, member⟩ | ⟨empty, index, reply, member⟩
  · exact .inl ⟨index, reply, begun_getElem?_append message later, List.mem_append_left _ member⟩
  · exact .inr ⟨empty, index, reply, List.mem_append_left _ member⟩

/-- The tasks, the table of requests and the futures of a run. -/
structure Orderly (trace : List (Event Id F)) (pool : (@system Id F _).Pool) : Prop where
  agrees : Agrees (Satisfied trace) pool.shared
  made : ∀ id, pool.weigh (registering id) + (if pool.shared.promises id = none then 0 else 1) ≤ pool.weigh (making id)
  once : ∀ id, pool.weigh (making id) ≤ 1
  returned : pool.All fun task due => ∀ id, returns task = some id →
    due = some (.client (.addRequest id)) ∨ pool.shared.promises id ≠ none
  closed : .begins .destroy ∈ trace → pool.All fun task due => OfUser task → due = none
  uncancelled : pool.All fun task _ => ∀ id, task ≠ .function (.cancel id)
  satisfied : Satisfied trace → .begins .destroy ∈ trace
  awaited : pool.weigh satisfying ≤ 1 ∧ (.begins .destroy ∉ trace ∨ Satisfied trace → pool.weigh satisfying = 0)
  destroying : pool.All fun _ due => ∀ member, due = some (.destroyMember member) → Satisfied trace
  valued : ∀ id data, pool.shared.promises id = some (.value data) → Comes trace id data
  broken : ∀ id, pool.shared.promises id = some .broken → .begins (.releaseResponse id) ∈ trace

theorem Orderly.initial (errorCallback : Option F) : Orderly [] (⟨[], initial errorCallback⟩ : (@system Id F _).Pool) where
  agrees := by
    refine ⟨fun id held => ?_, fun id => nofun, fun id data held => ?_⟩
    all_goals exact nomatch held.symm.trans Std.TreeMap.getElem?_emptyc
  made id := Nat.zero_le _
  once id := Nat.zero_le _
  returned := nofun
  closed := nofun
  uncancelled := nofun
  satisfied := nofun
  awaited := ⟨Nat.zero_le _, fun _ => rfl⟩
  destroying := nofun
  valued := nofun
  broken := nofun

omit [LinearOrder Id] in
private theorem fresh_of_allows {tasks : List (Activity (@program Id F))} {task : LibraryTask Id F}
    (allowed : Allows tasks task) (new : newId task = some id) : ∀ activity ∈ tasks, newId activity.task ≠ some id := by
  intro activity member made
  have other {call : ClientTask Id F} (fresh : ∀ activity ∈ tasks, activity.task ≠ .destroy ∧
      (newId activity.task ≠ none → newId activity.task ≠ Client.newId call)) (same : Client.newId call = some id) : False := by
    exact (fresh activity member).2 (made ▸ Option.some_ne_none _) (made.trans same.symm)
  cases task with
  | function task =>
    cases task with
    | request => exact other allowed new
    | sendWithDeliveryStatus => exact other allowed new
    | _ => exact nomatch new
  | _ => exact nomatch new

omit [LinearOrder Id] in
private theorem undestroyed_of_allows {tasks : List (Activity (@program Id F))} {task : LibraryTask Id F}
    (allowed : Allows tasks task) (mine : OfUser task ∨ task = .destroy) : ∀ activity ∈ tasks, activity.task ≠ .destroy := by
  intro activity member
  cases task with
  | function task =>
    cases task with
    | cancel => exact allowed.elim
    | message => exact mine.elim False.elim nofun
    | _ => exact (allowed activity member).1
  | releaseResponse => exact mine.elim False.elim nofun
  | destroy => exact (allowed activity member).1

theorem Orderly.begins {task : LibraryTask Id F} (ran : Runs trace pool) (orderly : Orderly trace pool)
    (step : system.Step pool (.begins task) after) : Orderly (trace ++ [.begins task]) after := by
  obtain ⟨⟨same, allowed⟩, weights, all⟩ := step.begun
  rw [system_due] at weights
  simp only [system_due] at all
  have earlier {other : LibraryTask Id F} (began : .begins other ∈ trace) : .begins other ∈ trace ++ [.begins task] :=
    List.mem_append_left _ began
  have early (destroys : OfUser task ∨ task = .destroy) : .begins .destroy ∉ trace := by
    intro began
    obtain ⟨activity, member, task⟩ := (begun_iff ran _).mp began
    exact undestroyed_of_allows allowed destroys activity member task
  constructor
  case agrees =>
    rw [same, satisfied_begins]
    exact orderly.agrees
  case made =>
    intro id
    rw [weights, weights, same]
    have before := orderly.made id
    have now := registering_first id task
    have constant : making id task (some (first task)) = making id task none := rfl
    omega
  case once =>
    intro id
    rw [weights]
    by_cases new : newId task = some id
    · have none : pool.weigh (making id) = 0 :=
        weigh_eq_zero fun activity member => if_neg (fresh_of_allows allowed new activity member)
      rw [none, making, if_pos new]
    · rw [making, if_neg new]
      exact orderly.once id
  case returned =>
    rw [same]
    refine all _ orderly.returned fun id returned => .inl ?_
    cases task with
    | function task =>
      cases task with
      | request new => rw [first, Client.first, Option.some.inj returned]
      | _ => exact nomatch returned
    | _ => exact nomatch returned
  case closed =>
    intro began
    rcases List.mem_append.mp began with began | last
    · refine all _ (orderly.closed began) fun mine => absurd began (early (.inl mine))
    · obtain rfl := Event.begins.inj (List.mem_singleton.mp last)
      exact all _ (fun activity member mine => ((allowed activity member).2 mine).due) False.elim
  case uncancelled =>
    refine all _ orderly.uncancelled fun id same => ?_
    subst same
    exact allowed
  case satisfied => exact fun ended => earlier (orderly.satisfied (satisfied_begins.mp ended))
  case awaited =>
    rw [weights, satisfied_begins]
    by_cases destroys : task = .destroy
    · subst destroys
      have none := orderly.awaited.2 (.inl (early (.inr rfl)))
      refine ⟨by rw [none]; rfl, ?_⟩
      rintro (absent | ended)
      · exact absurd (List.mem_append_right _ (List.mem_singleton_self _)) absent
      · exact absurd (orderly.satisfied ended) (early (.inr rfl))
    · have nothing : satisfying task (some (first task)) = 0 := by
        cases task with
        | destroy => exact absurd rfl destroys
        | _ => rfl
      rw [nothing, Nat.add_zero]
      refine ⟨orderly.awaited.1, ?_⟩
      rintro (absent | ended)
      · exact orderly.awaited.2 (.inl fun began => absent (earlier began))
      · exact orderly.awaited.2 (.inr ended)
  case destroying =>
    simp only [satisfied_begins]
    refine all _ orderly.destroying fun member due => ?_
    cases task <;> exact nomatch due
  case valued =>
    rw [same]
    exact fun id data held => (orderly.valued id data held).append _
  case broken =>
    rw [same]
    exact fun id held => earlier (orderly.broken id held)

private theorem task_begun {index : Nat} {task : LibraryTask Id F} (ran : Runs trace pool)
    (found : pool.tasks[index]?.map (·.task) = some task) : .begins task ∈ trace := by
  obtain ⟨activity, there, rfl⟩ := Option.map_eq_some_iff.mp found
  exact (begun_iff ran _).mpr ⟨activity, List.mem_of_getElem? there, rfl⟩

/-- A promise is made by the call that adds it to the table, and not lost. -/
private theorem promised_perform {satisfied : Prop} {library : Library Id F} (agrees : Agrees satisfied library)
    (call : LibraryCall Id F) (id : Id) :
    (library.promises id ≠ none → (library.perform call).2.promises id ≠ none) ∧
      (call = .client (.addRequest id) → (library.perform call).2.promises id ≠ none) ∧
      (library.promises id = none → call ≠ .client (.addRequest id) → (library.perform call).2.promises id = none) := by
  have move := entry_perform library call id
  generalize (library.perform call).2.client.requests[id]? = held at move
  generalize (library.perform call).2.promises id = promise at move
  have absent (unmade : library.promises id = none) (held : library.client.requests[id]? = some none) : False :=
    nomatch unmade.symm.trans (agrees.awaiting id held).1
  cases move with
  | kept unsatisfied unadded => exact ⟨fun there => there, fun added => absurd added unadded, fun unmade _ => unmade⟩
  | added => exact ⟨fun _ => Option.some_ne_none _, fun _ => Option.some_ne_none _, fun _ other => absurd rfl other⟩
  | settled held settles =>
    exact ⟨fun _ => Option.some_ne_none _, fun _ => Option.some_ne_none _, fun unmade => (absent unmade held).elim⟩
  | emptied held =>
    exact ⟨fun _ => Option.some_ne_none _, fun _ => Option.some_ne_none _, fun unmade => (absent unmade held).elim⟩
  | cleared settled unadded => exact ⟨fun there => there, fun added => absurd added unadded, fun unmade _ => unmade⟩

/-- What is added to the table is new, and is added before the destructor. -/
theorem Orderly.unmade {index : Nat} {reply : ClientReply F} (orderly : Orderly trace pool)
    (step : system.Step pool (.calls index (.client (.addRequest id)) reply) after) :
    pool.shared.promises id = none ∧ ¬ Satisfied trace := by
  obtain ⟨task, due, move, -, -, weights, alls⟩ := step.called program_flows
  obtain ⟨one, user⟩ := adder move
  refine ⟨?_, fun ended => nomatch (alls _ (orderly.closed (orderly.satisfied ended))).1 user⟩
  have before := orderly.made id
  have once := orderly.once id
  have here := weights (registering id)
  rw [one, registering_move move] at here
  by_contra there
  rw [if_neg there] at before
  omega

theorem Orderly.calls {index : Nat} {call : LibraryCall Id F} {reply : ClientReply F} (ran : Runs trace pool)
    (orderly : Orderly trace pool) (step : system.Step pool (.calls index call reply) after) :
    Orderly (trace ++ [.calls index call reply]) after := by
  obtain ⟨task, due, move, found, answered, weights, alls⟩ := step.called program_flows
  have same : after.shared = (pool.shared.perform call).2 := congrArg Prod.snd answered.2
  have earlier {event : Event Id F} (member : event ∈ trace) : event ∈ trace ++ [.calls index call reply] :=
    List.mem_append_left _ member
  have mine (began : .begins .destroy ∈ trace) (user : OfUser task) : False :=
    nomatch (alls _ (orderly.closed began)).1 user
  have promised := promised_perform orderly.agrees call
  have registered (id : Id) : call = .client (.addRequest id) → registering id task (some call) = 1 := by
    rintro rfl
    exact (adder move).1
  have account (id : Id) : after.weigh (registering id) + registering id task (some call) = pool.weigh (registering id) := by
    rw [weights, registering_move move, Nat.add_zero]
  have constant (id : Id) : after.weigh (making id) = pool.weigh (making id) := by
    have both := weights (making id)
    exact Nat.add_right_cancel both
  have awaits : after.weigh satisfying + satisfying task (some call) = pool.weigh satisfying := by
    rw [weights, satisfying_move move, Nat.add_zero]
  have destroyer : call = .satisfyRequests → task = .destroy := by
    rintro rfl
    cases move <;> rfl
  constructor
  case agrees =>
    rw [same, satisfied_calls]
    refine orderly.agrees.perform ?_
    rintro id rfl
    exact orderly.unmade step
  case made =>
    intro id
    rw [constant, same]
    have before := orderly.made id
    have here := account id
    by_cases adds : call = .client (.addRequest id)
    · rw [registered id adds] at here
      split <;> split at before <;> omega
    · by_cases unmade : pool.shared.promises id = none
      · rw [if_pos ((promised id).2.2 unmade adds)]
        omega
      · rw [if_neg ((promised id).1 unmade)]
        rw [if_neg unmade] at before
        omega
  case once =>
    intro id
    rw [constant]
    exact orderly.once id
  case returned =>
    rw [same]
    have kept : pool.All fun task due => ∀ id, returns task = some id →
        due = some (.client (.addRequest id)) ∨ (pool.shared.perform call).2.promises id ≠ none :=
      fun activity member id returned => (orderly.returned activity member id returned).imp_right (promised id).1
    obtain ⟨now, rest⟩ := alls _ kept
    refine rest fun id returned => .inr ?_
    rcases now id returned with adds | there
    · exact (promised id).2.1 (Option.some.inj adds)
    · exact there
  case closed =>
    intro began
    rcases List.mem_append.mp began with began | last
    · exact (alls _ (orderly.closed began)).2 fun user => (mine began user).elim
    · exact nomatch List.mem_singleton.mp last
  case uncancelled =>
    obtain ⟨now, rest⟩ := alls _ orderly.uncancelled
    exact rest now
  case satisfied =>
    rw [satisfied_calls]
    rintro (ended | satisfies)
    · exact earlier (orderly.satisfied ended)
    · exact earlier (destroyer satisfies ▸ task_begun ran found)
  case awaited =>
    refine ⟨Nat.le_trans (Nat.le_of_add_right_le (Nat.le_of_eq awaits)) orderly.awaited.1, ?_⟩
    rw [satisfied_calls]
    rintro (absent | ended | rfl)
    · exact Nat.eq_zero_of_add_eq_zero_right (awaits.trans (orderly.awaited.2 (.inl fun began => absent (earlier began))))
    · exact Nat.eq_zero_of_add_eq_zero_right (awaits.trans (orderly.awaited.2 (.inr ended)))
    · have one : satisfying task (some (@LibraryCall.satisfyRequests Id F)) = 1 := rfl
      have most := orderly.awaited.1
      omega
  case destroying =>
    have kept : pool.All fun _ due => ∀ member, due = some (.destroyMember member) →
        Satisfied (trace ++ [.calls index call reply]) :=
      fun activity there member due => satisfied_calls.mpr (.inl (orderly.destroying activity there member due))
    refine (alls _ kept).2 fun member next => ?_
    have plain (due : Option (ClientCall Id F)) : due.map LibraryCall.client ≠ some (.destroyMember member) := by
      cases due <;> nofun
    cases move with
    | function move => exact absurd next (plain _)
    | released move => exact absurd next (plain _)
    | satisfied => exact satisfied_calls.mpr (.inr rfl)
    | member => exact (alls _ kept).1 _ rfl
    | _ => exact nomatch next
  case valued =>
    rw [same]
    intro id data valued
    have entry := entry_perform pool.shared call id
    generalize (pool.shared.perform call).2.client.requests[id]? = held at entry
    generalize promise : (pool.shared.perform call).2.promises id = future at entry valued
    cases entry with
    | kept => exact (orderly.valued id data valued).append _
    | added => exact nomatch valued
    | settled held settles =>
      cases settles with
      | answered =>
        obtain rfl := Outcome.value.inj (Option.some.inj valued)
        cases move with
        | function move =>
          cases move with
          | fulfilled =>
            obtain ⟨errorCallback, reached⟩ := ran
            rw [← List.getElem?_map, reached.begun] at found
            exact .inl ⟨index, reply, begun_getElem?_append found _,
              List.mem_append_right _ (List.mem_singleton_self _)⟩
        | released move => cases move
      | _ => exact nomatch valued
    | emptied held => exact .inr ⟨(Outcome.value.inj (Option.some.inj valued)).symm, satisfied_calls.mpr (.inr rfl)⟩
    | cleared => exact (orderly.valued id data valued).append _
  case broken =>
    rw [same]
    intro id broken
    have entry := entry_perform pool.shared call id
    generalize (pool.shared.perform call).2.client.requests[id]? = held at entry
    generalize promise : (pool.shared.perform call).2.promises id = future at entry broken
    cases entry with
    | kept => exact earlier (orderly.broken id broken)
    | added => exact nomatch broken
    | settled held settles =>
      cases settles with
      | released =>
        cases move with
        | @function task _ _ _ move =>
          have cancels : task = .cancel id := by cases move <;> rfl
          exact absurd (congrArg _ cancels) ((alls _ orderly.uncancelled).1 id)
        | @released other _ _ _ move =>
          have mine : other = id := by cases move <;> rfl
          exact earlier (mine ▸ task_begun ran found)
      | answered => exact nomatch broken
      | dropped =>
        have ended := (alls _ orderly.destroying).1 _ rfl
        exact absurd ended (orderly.agrees.awaiting id held).2
    | emptied held => exact nomatch broken
    | cleared => exact earlier (orderly.broken id broken)

theorem Runs.orderly (ran : Runs trace pool) : Orderly trace pool := by
  obtain ⟨errorCallback, reached⟩ := ran
  induction reached with
  | refl => exact .initial errorCallback
  | @step trace pool event after reached step ih =>
    cases event with
    | begins task => exact ih.begins ⟨errorCallback, reached⟩ step
    | calls index call reply => exact ih.calls ⟨errorCallback, reached⟩ step

theorem value_stays {data : Data} (ran : Runs trace pool) (valued : pool.shared.promises id = some (.value data))
    {later : List (Event Id F)} (reached : system.Reaches pool later after) :
    Runs (trace ++ later) after ∧ after.shared.promises id = some (.value data) := by
  induction reached with
  | refl => exact ⟨by rwa [List.append_nil], valued⟩
  | @step later middle event after reached step ih =>
    obtain ⟨ran, valued⟩ := ih
    obtain ⟨errorCallback, whole⟩ := ran
    rw [← List.append_assoc]
    refine ⟨⟨errorCallback, whole.step step⟩, ?_⟩
    have orderly := Runs.orderly ⟨errorCallback, whole⟩
    cases event with
    | begins task => rw [step.begun.1.1, valued]
    | calls index call reply =>
      obtain ⟨task, due, move, found, answered, weights, alls⟩ := step.called program_flows
      have same : after.shared = (middle.shared.perform call).2 := congrArg Prod.snd answered.2
      have unheld : middle.shared.client.requests[id]? ≠ some none := fun held =>
        nomatch valued.symm.trans (orderly.agrees.awaiting id held).1
      rw [same]
      have entry := entry_perform middle.shared call id
      generalize (middle.shared.perform call).2.client.requests[id]? = held at entry
      generalize (middle.shared.perform call).2.promises id = future at entry
      cases entry with
      | kept => exact valued
      | added => exact nomatch valued.symm.trans (orderly.unmade step).1
      | settled held settles => exact absurd held unheld
      | emptied held => exact absurd held unheld
      | cleared => exact valued

/-- A response that has been returned and not destroyed yet waits for its request, which
is in the table, or has a value that stays, from the daemon or from the destructor. Its
promise is never broken, and once the destructor has been there none waits any more. -/
theorem response_resolves (ran : Runs trace pool) {activity : Activity (@program Id F)} (member : activity ∈ pool.tasks)
    (request : returns activity.task = some id) (returned : activity.Finished)
    (kept : .begins (.releaseResponse id) ∉ trace) :
    (pool.shared.promises id = some .pending ∧ pool.shared.client.requests[id]? = some none ∧ ¬ Satisfied trace) ∨
      ∃ data, pool.shared.promises id = some (.value data) ∧ Comes trace id data ∧
        ∀ later after, system.Reaches pool later after → after.shared.promises id = some (.value data) := by
  have orderly := ran.orderly
  rcases future : pool.shared.promises id with _ | _ | data | _
  · rcases orderly.returned activity member id request with adds | made
    · exact nomatch (returned.due.symm.trans adds)
    · exact absurd future made
  · have held := orderly.agrees.pending id future
    exact .inl ⟨rfl, held, (orderly.agrees.awaiting id held).2⟩
  · exact .inr ⟨data, rfl, orderly.valued id data future, fun later after reached => (value_stays ran future reached).2⟩
  · exact absurd (orderly.broken id future) kept

/-- One request is answered while the response is there. -/
private def answeredTurns : List (Turn (LibraryTask Nat Nat) Unit) :=
  [.begins (.function (.request 1 (1, 0) [] (2, 0))), .calls 0 (), .calls 0 (),
    .begins (.function (.message (.requestResponse 1 [9]))), .calls 1 ()]

theorem answered_response_resolves : ∃ (trace : List (Event Nat Nat)) (pool : _), Runs trace pool ∧
    ((pool.shared.promises 1 = some .pending ∧ pool.shared.client.requests[1]? = some none ∧ ¬ Satisfied trace) ∨
      ∃ data, pool.shared.promises 1 = some (.value data) ∧ Comes trace 1 data ∧
        ∀ later after, system.Reaches pool later after → after.shared.promises 1 = some (.value data)) := by
  have checked : (play answeredTurns).any (fun run : List (Event Nat Nat) × _ =>
      run.2.tasks[0]?.any (fun activity => decide (returns activity.task = some 1 ∧ activity.Finished)) &&
        decide (Event.begins (.releaseResponse 1) ∉ run.1)) = true := by
    decide +kernel
  obtain ⟨trace, pool, reached, checked⟩ := exists_run replies_allowed checked
  obtain ⟨there, kept⟩ := Bool.and_eq_true_iff.mp checked
  obtain ⟨activity, found, ready⟩ := (Option.any_eq_true _ _).mp there
  obtain ⟨request, returned⟩ := of_decide_eq_true ready
  exact ⟨trace, pool, ⟨none, reached⟩,
    response_resolves ⟨none, reached⟩ (List.mem_of_getElem? found) request returned (of_decide_eq_true kept)⟩

end CpuCom.Messaging.Library
