import CpuCom.Interaction.Presence
import CpuCom.Proofs.Responses

/-! The exceptions of the library. A response that comes while it is being destroyed may
find a promise that the destructor has satisfied already. -/

namespace CpuCom.Messaging.Library
open Interaction System Program

variable {Id F : Type} [LinearOrder Id] {trace : List (Event Id F)} {pool : (@system Id F _).Pool} {id : Id}

/-- A request is outstanding from its entry into the table until it is answered or
cancelled, or the table is gone. A response that comes too late leaves it there. -/
def outstanding : Presence (Event Id F) Id where
  enters
    | .calls _ (.client (.addRequest id)) _ => some id
    | _ => none
  leaves id
    | .calls _ (.client (.eraseRequest gone)) _ => gone = id
    | .calls _ (.client (.fulfil answered _)) reply => answered = id ∧ reply.satisfied = false
    | .calls _ (.destroyMember .requests) _ => True
    | _ => False

private theorem fulfil_satisfied {library : Library Id F} {data : Data} :
    (library.perform (.client (.fulfil id data))).1.satisfied = true ↔
      ∃ value, library.client.requests[id]? = some (some value) := by
  change (library.client.perform (.fulfil id data)).1.satisfied = true ↔ _
  rcases held : library.client.requests[id]? with _ | _ | value <;> simp [Client.perform, held]

private theorem requestAfter_isSome {library : Library Id F} {index : Nat} {call : LibraryCall Id F} :
    (requestAfter id library.client.requests[id]? call).isSome = true ↔
      outstanding.enters (.calls index call (library.perform call).1) = some id ∨
        library.client.requests[id]?.isSome = true ∧ ¬ outstanding.leaves id (.calls index call (library.perform call).1) := by
  cases call with
  | client call =>
    cases call with
    | addRequest new =>
      by_cases same : new = id
      · subst same
        cases held : library.client.requests[new]? <;> simp [requestAfter, outstanding]
      · simp [requestAfter, outstanding, same]
    | eraseRequest gone => by_cases same : gone = id <;> simp [requestAfter, outstanding, same]
    | fulfil answered data =>
      by_cases same : answered = id
      · subst same
        have satisfied := @fulfil_satisfied _ _ _ answered library data
        rcases held : library.client.requests[answered]? with _ | _ | value <;> simp_all [requestAfter, outstanding]
      · simp [requestAfter, outstanding, same]
    | _ => simp [requestAfter, outstanding]
  | lockCancelFunc => simp [requestAfter, outstanding]
  | satisfyRequests => simp [requestAfter, outstanding]
  | destroyMember member => cases member <;> simp [requestAfter, outstanding]

theorem outstanding_iff (ran : Runs trace pool) (id : Id) :
    outstanding.Present trace id ↔ pool.shared.client.requests[id]?.isSome = true := by
  obtain ⟨errorCallback, reached⟩ := ran
  induction reached with
  | refl =>
    have none : (initial errorCallback : Library Id F).client.requests[id]? = none := Std.TreeMap.getElem?_emptyc
    rw [none]
    simp
  | @step trace pool event after reached step ih =>
    rw [Presence.present_snoc, ih]
    cases event with
    | begins task =>
      rw [step.begun.1.1]
      simp [outstanding]
    | calls index call reply =>
      obtain ⟨task, due, move, found, answered, weights, alls⟩ := step.called program_flows
      have replied : reply = (pool.shared.perform call).1 := congrArg Prod.fst answered.2
      have same : after.shared = (pool.shared.perform call).2 := congrArg Prod.snd answered.2
      rw [same, requests_perform, replied, requestAfter_isSome]

private theorem runs_event {before later : List (Event Id F)} {event : Event Id F}
    (ran : Runs (before ++ event :: later) pool) : ∃ one two, Runs before one ∧ system.Step one event two := by
  obtain ⟨errorCallback, reached⟩ := ran
  obtain ⟨one, two, reached, step⟩ := Reaches.event reached
  exact ⟨one, two, ⟨errorCallback, reached⟩, step⟩

/-- A promise has a value already when the destructor has been there before the response. -/
theorem satisfied_iff {before later : List (Event Id F)} {index : Nat} {data : Data} {reply : ClientReply F}
    (ran : Runs (before ++ .calls index (.client (.fulfil id data)) reply :: later) pool) :
    reply.satisfied = true ↔ outstanding.Present before id ∧ Satisfied before := by
  obtain ⟨one, two, ran, step⟩ := runs_event ran
  obtain ⟨task, due, move, found, answered, weights, alls⟩ := step.called program_flows
  have agrees := ran.orderly.agrees
  have replied : reply = (one.shared.perform (.client (.fulfil id data))).1 := congrArg Prod.fst answered.2
  rw [replied, fulfil_satisfied, outstanding_iff ran]
  constructor
  · rintro ⟨value, held⟩
    exact ⟨by rw [held]; rfl, agrees.closed id value held⟩
  · rintro ⟨there, ended⟩
    obtain ⟨value, held⟩ := Option.isSome_iff_exists.mp there
    cases value with
    | none => exact absurd ended (agrees.awaiting id held).2
    | some value => exact ⟨value, held⟩

theorem destructor_unsatisfied {index : Nat} {reply : ClientReply F} (ran : Runs trace pool)
    (satisfies : .calls index .satisfyRequests reply ∈ trace) : reply.satisfied = false := by
  obtain ⟨before, later, rfl⟩ := List.mem_iff_append.mp satisfies
  obtain ⟨one, two, ran, step⟩ := runs_event ran
  obtain ⟨task, due, move, found, answered, weights, alls⟩ := step.called program_flows
  have orderly := ran.orderly
  have early : ¬ Satisfied before := by
    intro ended
    have none := orderly.awaited.2 (.inr ended)
    have here := weights satisfying
    have now : satisfying task (some (@LibraryCall.satisfyRequests Id F)) = 1 := rfl
    rw [satisfying_move move, now] at here
    omega
  have replied : reply = (one.shared.perform .satisfyRequests).1 := congrArg Prod.fst answered.2
  rw [replied]
  refine List.any_eq_false.mpr fun entry member satisfied => early ?_
  obtain ⟨data, value⟩ := Option.isSome_iff_exists.mp satisfied
  exact orderly.agrees.closed entry.1 data ((Std.TreeMap.mem_toList_iff_getElem?_eq_some.mp member).trans (congrArg _ value))

omit [LinearOrder Id] in
private theorem function_throwless {task : ClientTask Id F} (other : ∀ id data, task ≠ .message (.requestResponse id data)) :
    (Client.program task).Throwless := by
  cases task with
  | cancel id =>
    intro reply
    cases canceled : reply.result <;> simp [Program.bind, Program.Throwless, canceled]
  | subscribe command callback =>
    intro reply
    cases inserted : reply.result <;> simp [Program.bind, Program.Throwless, inserted]
  | message message =>
    cases message with
    | requestResponse id data => exact absurd rfl (other id data)
    | _ =>
      intro reply
      cases found : reply.callback <;> simp [Program.bind, Program.Throwless, found]
  | _ => simp [Client.program, Client.request, Client.unsubscribe, Client.send, Client.sendWithDeliveryStatus,
      Program.Throwless, Program.request]

omit [LinearOrder Id] in
private theorem releaseResponse_throwless : (releaseResponse id : LibraryProgram Id F Unit).Throwless := by
  intro reply
  have cleanup : ((Client.cleanup id : ClientProgram Id F Unit).lift LibraryCall.client).Throwless :=
    (@function_throwless _ _ (.cancel id) nofun).lift
  cases alive : reply.result with
  | true => simpa [Program.bind, alive] using cleanup
  | false => simp [Program.bind, alive, Program.Throwless]

omit [LinearOrder Id] in
private theorem destroy_throws {made : List (LibraryCall Id F × ClientReply F)}
    (leads : (destroy : LibraryProgram Id F Unit).Leads made .throw) :
    ∃ reply, (.satisfyRequests, reply) ∈ made ∧ reply.satisfied = true := by
  cases made with
  | nil => exact nomatch leads_nil.mp leads
  | cons call calls =>
    obtain ⟨asked, reply⟩ := call
    obtain ⟨rfl, leads⟩ := leads
    refine ⟨reply, List.mem_cons_self, ?_⟩
    by_contra once
    have members (members : List Member) : (destroyMembers members : LibraryProgram Id F Unit).Throwless := by
      induction members with
      | nil => trivial
      | cons member members ih => exact fun _ => ih
    change (if reply.satisfied then _ else destroyMembers _ : LibraryProgram Id F Unit).Leads calls .throw at leads
    rw [if_neg once] at leads
    exact (members _).leads leads

omit [LinearOrder Id] in
private theorem response_leads {data : Data} {made : List (LibraryCall Id F × ClientReply F)}
    {rest : LibraryProgram Id F Unit}
    (leads : (program (.function (.message (.requestResponse id data))) : LibraryProgram Id F Unit).Leads made rest) :
    (made = [] ∧ rest ≠ .throw) ∨
      ∃ reply, made = [(.client (.fulfil id data), reply)] ∧ (rest = .throw ↔ reply.satisfied = true) := by
  cases made with
  | nil =>
    obtain rfl := leads_nil.mp leads
    exact .inl ⟨rfl, nofun⟩
  | cons call calls =>
    obtain ⟨asked, reply⟩ := call
    obtain ⟨rfl, leads⟩ := leads
    right
    change (Program.lift LibraryCall.client (if reply.satisfied then .throw else .pure ())).Leads calls rest at leads
    cases satisfied : reply.satisfied with
    | true =>
      rw [satisfied] at leads
      cases calls with
      | nil => exact ⟨reply, rfl, fun _ => satisfied, fun _ => (leads_nil.mp leads).symm⟩
      | cons call calls => exact leads.elim
    | false =>
      rw [satisfied] at leads
      cases calls with
      | nil =>
        obtain rfl := leads_nil.mp leads
        exact ⟨reply, rfl, nofun, fun again => nomatch satisfied.symm.trans again⟩
      | cons call calls => exact leads.elim

/-- An exception leaves the library in one case only: a response comes after the
destructor has been there, for a request that it has found outstanding. -/
theorem throws_iff (ran : Runs trace pool) {index : Nat} {activity : Activity (@program Id F)}
    (found : pool.tasks[index]? = some activity) :
    activity.rest = .throw ↔ ∃ id data before reply later,
      activity.task = .function (.message (.requestResponse id data)) ∧
      trace = before ++ .calls index (.client (.fulfil id data)) reply :: later ∧ outstanding.Present before id ∧
      Satisfied before := by
  have ⟨errorCallback, reached⟩ := ran
  have made := made_of_found reached found
  have leads := activity.leads
  constructor
  · intro threw
    rw [threw] at leads
    cases task : activity.task with
    | function call =>
      rw [task] at leads
      by_cases responds : ∃ id data, call = .message (.requestResponse id data)
      · obtain ⟨id, data, rfl⟩ := responds
        rcases response_leads leads with ⟨-, ends⟩ | ⟨reply, one, threw⟩
        · exact absurd rfl ends
        · have called : (LibraryCall.client (.fulfil id data), reply) ∈ own index trace := by
            rw [← made, one]
            exact List.mem_singleton_self _
          obtain ⟨before, later, rfl⟩ := List.mem_iff_append.mp (mem_own.mp called)
          exact ⟨id, data, before, reply, later, rfl, rfl, (satisfied_iff ran).mp (threw.mp rfl)⟩
      · have throwless := function_throwless fun id data same => responds ⟨id, data, same⟩
        exact (throwless.lift.leads leads).elim
    | releaseResponse id =>
      rw [task] at leads
      exact (releaseResponse_throwless.leads leads).elim
    | destroy =>
      rw [task] at leads
      obtain ⟨reply, member, again⟩ := destroy_throws leads
      rw [made] at member
      exact nomatch again.symm.trans (destructor_unsatisfied ran (mem_own.mp member))
  · rintro ⟨id, data, before, reply, later, task, rfl, late⟩
    rw [task] at leads
    have called : (LibraryCall.client (.fulfil id data), reply) ∈ activity.made := made ▸ mem_own.mpr (by simp)
    rcases response_leads leads with ⟨none, -⟩ | ⟨answer, one, threw⟩
    · exact nomatch none ▸ called
    · obtain ⟨-, rfl⟩ := Prod.mk.inj (List.mem_singleton.mp (one ▸ called))
      exact threw.mpr ((satisfied_iff ran).mpr late)

private def lateTurns : List (Turn (LibraryTask Nat Nat) Unit) :=
  [.begins (.function (.request 1 (1, 0) [] (2, 0))), .calls 0 (), .calls 0 (), .begins .destroy, .calls 1 (),
    .begins (.function (.message (.requestResponse 1 [9]))), .calls 2 ()]

theorem late_response_throws : ∃ (trace : List (Event Nat Nat)) (pool : _) (activity : _), Runs trace pool ∧
    pool.tasks[2]? = some activity ∧ activity.rest = .throw ∧
    ∃ id data before reply later, activity.task = .function (.message (.requestResponse id data)) ∧
      trace = before ++ .calls 2 (.client (.fulfil id data)) reply :: later ∧ outstanding.Present before id ∧
      Satisfied before := by
  have checked : (play lateTurns).any (fun run : List (Event Nat Nat) × _ =>
      run.2.tasks[2]?.any (fun activity => decide (activity.due = none ∧ ¬ activity.Finished))) = true := by
    decide +kernel
  obtain ⟨trace, pool, reached, checked⟩ := exists_run replies_allowed checked
  obtain ⟨activity, found, threw⟩ := (Option.any_eq_true _ _).mp checked
  have throws : activity.rest = .throw := by
    obtain ⟨idle, unfinished⟩ := of_decide_eq_true threw
    cases rest : activity.rest with
    | pure value => exact absurd rest unfinished
    | throw => rfl
    | call request next => simp [Activity.due, rest] at idle
  exact ⟨trace, pool, activity, ⟨none, reached⟩, found, throws, (throws_iff ⟨none, reached⟩ found).mp throws⟩

end CpuCom.Messaging.Library
