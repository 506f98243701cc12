import CpuCom.Interaction.Presence
import CpuCom.Proofs.DaemonHandlers
import Mathlib.Data.Nat.Basic

/-! `m_requests` holds the requests that wait, in the order in which they have
come. A request waits until it is answered, cancelled or dropped with its session. -/

namespace CpuCom.Messaging.Daemon
open Interaction System
open Uart (CpuCommand)

variable {S Id : Type}

/-- Requests come with `onRequest`; a lookup that finds them, a cancellation and a
disconnect take them away. -/
def requestPresence : Presence (Event S Id) (PendingRequest S Id) where
  enters
    | .calls _ (.addRequest request) _ => some request
    | _ => none
  leaves request
    | .calls _ (.takeRequest _) reply => reply.request = some request
    | .calls _ (.cancelRequest id) _ => id = request.id
    | .calls _ (.dropRequests session) _ => session = request.session
    | _ => False

abbrev registered (history : List (Event S Id)) : List (PendingRequest S Id) := requestPresence.entered history

abbrev Waiting (history : List (Event S Id)) (request : PendingRequest S Id) : Prop :=
  requestPresence.Present history request

def DistinctIds (history : List (Event S Id)) : Prop := ((registered history).map (·.id)).Nodup

instance [DecidableEq Id] (history : List (Event S Id)) : Decidable (DistinctIds history) :=
  inferInstanceAs (Decidable (List.Nodup _))

/-- The request waits for this command, and has come before all others that do. -/
def OldestWaiting (history : List (Event S Id)) (command : CpuCommand) (request : PendingRequest S Id) : Prop :=
  Waiting history request ∧ request.responseCommand = command ∧
    ∀ other, Waiting history other → other.responseCommand = command → other ≠ request →
      requestPresence.Precedes history request other

theorem DistinctIds.left {first rest : List (Event S Id)} (distinct : DistinctIds (first ++ rest)) :
    DistinctIds first := by
  unfold DistinctIds registered at *
  rw [Presence.entered_append, List.map_append] at distinct
  exact (List.nodup_append'.mp distinct).1

theorem DistinctIds.nodup {history : List (Event S Id)} (distinct : DistinctIds history) : (registered history).Nodup :=
  List.Nodup.of_map _ distinct

theorem DistinctIds.eq_of_id {history : List (Event S Id)} {request other : PendingRequest S Id}
    (distinct : DistinctIds history) (one : request ∈ registered history) (two : other ∈ registered history)
    (same : request.id = other.id) : request = other := List.inj_on_of_nodup_map distinct one two same

section
variable {requests : List (PendingRequest S Id)} {request : PendingRequest S Id} {sought : PendingRequest S Id → Bool}

/-- Erasing the first request that is sought takes away that one only. -/
theorem mem_eraseP_iff (distinct : requests.Nodup) :
    request ∈ requests.eraseP sought ↔ request ∈ requests ∧ requests.find? sought ≠ some request := by
  induction requests with
  | nil => simp
  | cons first requests ih =>
    obtain ⟨apart, distinct⟩ := List.nodup_cons.mp distinct
    cases found : sought first with
    | true =>
      rw [List.eraseP_cons_of_pos found, List.find?_cons_of_pos found]
      constructor
      · intro member
        exact ⟨List.mem_cons_of_mem _ member, fun same => apart (Option.some.inj same ▸ member)⟩
      · rintro ⟨member, other⟩
        rcases List.mem_cons.mp member with rfl | member
        · exact absurd rfl other
        · exact member
    | false =>
      rw [List.eraseP_cons_of_neg (by simp [found]), List.find?_cons_of_neg (by simp [found]), List.mem_cons,
        List.mem_cons, ih distinct]
      constructor
      · rintro (rfl | ⟨member, other⟩)
        · refine ⟨.inl rfl, fun same => ?_⟩
          have := List.find?_some same
          rw [found] at this
          exact absurd this Bool.false_ne_true
        · exact ⟨.inr member, other⟩
      · rintro ⟨rfl | member, other⟩
        · exact .inl rfl
        · exact .inr ⟨member, other⟩

/-- The first request that is sought comes before all others that are. -/
theorem find_first (found : requests.find? sought = some request) {other : PendingRequest S Id}
    (member : other ∈ requests) (wanted : sought other = true) (different : other ≠ request) :
    ∃ before after, requests = before ++ after ∧ request ∈ before ∧ other ∈ after := by
  obtain ⟨-, before, after, rfl, none⟩ := List.find?_eq_some_iff_append.mp found
  refine ⟨before ++ [request], after, by simp, by simp, ?_⟩
  rcases List.mem_append.mp member with member | member
  · have := none other member
    simp [wanted] at this
  · rcases List.mem_cons.mp member with rfl | member
    · exact absurd rfl different
    · exact member

end

section
variable {trace before after : List (Event S Id)}

/-- The invariant: the list holds what waits, and nothing twice or out of order. -/
structure Keeps (trace : List (Event S Id)) (requests : List (PendingRequest S Id)) : Prop where
  ordered : requests.Sublist (registered trace)
  members : ∀ request, request ∈ requests ↔ Waiting trace request

private theorem Keeps.unchanged {requests : List (PendingRequest S Id)} {event : Event S Id}
    (keeps : Keeps trace requests)
    (brings : requestPresence.enters event = none) (takes : ∀ request, ¬ requestPresence.leaves request event) :
    Keeps (trace ++ [event]) requests := by
  constructor
  · rw [registered, Presence.entered_snoc, brings]
    simpa using keeps.ordered
  · intro request
    rw [Waiting, Presence.present_snoc, brings, keeps.members]
    simp [takes]

private theorem Keeps.filtered {requests left : List (PendingRequest S Id)} {event : Event S Id}
    (keeps : Keeps trace requests) (brings : requestPresence.enters event = none) (shorter : left.Sublist requests)
    (takes : ∀ request ∈ requests, request ∈ left ↔ ¬ requestPresence.leaves request event) :
    Keeps (trace ++ [event]) left := by
  constructor
  · rw [registered, Presence.entered_snoc, brings]
    simpa using shorter.trans keeps.ordered
  · intro request
    rw [Waiting, Presence.present_snoc, brings]
    constructor
    · intro member
      have old := shorter.subset member
      exact .inr ⟨(keeps.members request).mp old, (takes request old).mp member⟩
    · intro present
      obtain ⟨waits, stays⟩ := present.resolve_left nofun
      exact (takes request ((keeps.members request).mpr waits)).mpr stays

private theorem Keeps.nodup {requests : List (PendingRequest S Id)} (keeps : Keeps trace requests)
    (distinct : DistinctIds trace) : requests.Nodup := keeps.ordered.nodup distinct.nodup

variable [LinearOrder S] [DecidableEq Id] {pool : (@system S Id _ _).Pool}

omit [LinearOrder S] in
theorem Keeps.find_id {requests : List (PendingRequest S Id)} {request : PendingRequest S Id}
    (keeps : Keeps trace requests) (distinct : DistinctIds trace) (member : request ∈ requests) :
    requests.find? (fun other => decide (other.id = request.id)) = some request := by
  cases found : requests.find? (fun other => decide (other.id = request.id)) with
  | none => simpa using List.find?_eq_none.mp found request member
  | some first =>
    have same : first.id = request.id := by simpa using List.find?_some found
    exact congrArg some (distinct.eq_of_id (keeps.ordered.subset (List.mem_of_find?_eq_some found))
      (keeps.ordered.subset member) same)

private theorem Keeps.answers {daemon changed : Daemon S Id} {index : Nat} {call : DaemonCall S Id}
    {reply : DaemonReply S Id}
    (keeps : Keeps trace daemon.requests) (distinct : DistinctIds trace)
    (answered : daemon.Answers call reply changed) :
    Keeps (trace ++ [.calls index call reply]) changed.requests := by
  obtain ⟨rfl, replied⟩ := answered
  have nodup := keeps.nodup distinct
  cases call with
  | takeRequest command =>
    obtain rfl := replied.resolve_left nofun
    refine keeps.filtered rfl List.eraseP_sublist fun request member => ?_
    exact (mem_eraseP_iff nodup).trans ⟨fun stays => stays.2, fun stays => ⟨member, stays⟩⟩
  | cancelRequest id =>
    refine keeps.filtered rfl List.eraseP_sublist fun request member => (mem_eraseP_iff nodup).trans ⟨?_, ?_⟩
    · rintro ⟨_, other⟩ rfl
      exact other (keeps.find_id distinct member)
    · intro stays
      refine ⟨member, fun found => stays ?_⟩
      have same : request.id = id := by simpa using List.find?_some found
      exact same.symm
  | dropRequests session =>
    refine keeps.filtered rfl List.filter_sublist fun request member => ?_
    change request ∈ daemon.requests.filter (·.session ≠ session) ↔ ¬ session = request.session
    rw [List.mem_filter, decide_eq_true_iff]
    exact ⟨fun stays same => stays.2 same.symm, fun stays => ⟨member, fun same => stays same.symm⟩⟩
  | addRequest request =>
    constructor
    · rw [registered, Presence.entered_snoc]
      exact keeps.ordered.append (.refl _)
    · intro other
      rw [Waiting, Presence.present_snoc]
      change other ∈ daemon.requests ++ [request] ↔ some request = some other ∨ Waiting trace other ∧ ¬ False
      rw [← keeps.members]
      simp [or_comm, eq_comm]
  | _ => exact keeps.unchanged rfl fun _ => id

theorem keeps_requests (ran : Runs trace pool) (distinct : DistinctIds trace) : Keeps trace pool.shared.requests := by
  induction ran with
  | refl => exact ⟨.slnil, fun request => by simp [initial]⟩
  | step reached step ih =>
    have keeps := ih distinct.left
    cases step with
    | begins allowed =>
      obtain rfl := allowed
      exact keeps.unchanged rfl fun _ => id
    | calls found due answered => exact keeps.answers distinct.left answered

theorem lookup_keeps {index : Nat} {command : CpuCommand} {reply : DaemonReply S Id}
    (ran : Runs (before ++ .calls index (.takeRequest command) reply :: after) pool)
    (distinct : DistinctIds (before ++ .calls index (.takeRequest command) reply :: after)) :
    ∃ requests, Keeps before requests ∧ reply.request = requests.find? (·.responseCommand = command) := by
  obtain ⟨one, two, reached, step⟩ := Reaches.event ran
  cases step with
  | @calls tasks shared _ _ _ _ _ _ found due answered =>
    refine ⟨shared.requests, keeps_requests reached distinct.left, ?_⟩
    rw [answered.2.resolve_left nofun]
    rfl

theorem lookup_some {index : Nat} {command : CpuCommand} {reply : DaemonReply S Id}
    (ran : Runs (before ++ .calls index (.takeRequest command) reply :: after) pool)
    (distinct : DistinctIds (before ++ .calls index (.takeRequest command) reply :: after))
    (request : PendingRequest S Id) :
    reply.request = some request ↔ OldestWaiting before command request := by
  obtain ⟨requests, keeps, looked⟩ := lookup_keeps ran distinct
  have oldest (first : PendingRequest S Id) (found : reply.request = some first) :
      OldestWaiting before command first := by
    rw [looked] at found
    refine ⟨(keeps.members first).mp (List.mem_of_find?_eq_some found), by simpa using List.find?_some found, ?_⟩
    intro other waits wanted different
    obtain ⟨early, late, rfl, one, two⟩ :=
      find_first found ((keeps.members other).mpr waits) (decide_eq_true wanted) different
    exact Presence.precedes_of_sublist keeps.ordered one two
  refine ⟨oldest request, ?_⟩
  rintro ⟨waits, wanted, first⟩
  cases found : reply.request with
  | none =>
    rw [looked] at found
    simpa [wanted] using List.find?_eq_none.mp found request ((keeps.members request).mpr waits)
  | some other =>
    obtain ⟨otherWaits, otherWanted, otherFirst⟩ := oldest other found
    by_contra different
    have different : other ≠ request := fun same => different (congrArg some same)
    exact (first other otherWaits otherWanted different).asymm distinct.left.nodup
      (otherFirst request waits wanted different.symm)

theorem lookup_none {index : Nat} {command : CpuCommand} {reply : DaemonReply S Id}
    (ran : Runs (before ++ .calls index (.takeRequest command) reply :: after) pool)
    (distinct : DistinctIds (before ++ .calls index (.takeRequest command) reply :: after)) :
    reply.request = none ↔ ∀ request, Waiting before request → request.responseCommand ≠ command := by
  obtain ⟨requests, keeps, looked⟩ := lookup_keeps ran distinct
  rw [looked, List.find?_eq_none]
  simp [keeps.members]

theorem not_waiting_of_found {index : Nat} {command : CpuCommand} {reply : DaemonReply S Id}
    {request : PendingRequest S Id}
    (ran : Runs trace pool) (distinct : DistinctIds trace) (looked : .calls index (.takeRequest command) reply ∈ trace)
    (found : reply.request = some request) : request ∈ registered trace ∧ ¬ Waiting trace request := by
  obtain ⟨before, after, rfl⟩ := List.mem_iff_append.mp looked
  have came := ((lookup_some ran distinct request).mp found).1.entered
  constructor
  · rw [registered, Presence.entered_append]
    exact List.mem_append_left _ came
  · refine Presence.not_present_of_left distinct.nodup came ?_
    rw [Presence.present_snoc]
    rintro (none | ⟨-, stays⟩)
    · exact nomatch none
    · exact stays found

def responded (history : List (Event S Id)) : List Id :=
  history.filterMap fun
    | .calls _ (.send _ (.requestResponse id _)) _ => some id
    | _ => none

theorem responder {index : Nat} {session : S} {id : Id} {data : Data} {reply : DaemonReply S Id}
    (ran : Runs trace pool) (sent : .calls index (.send session (.requestResponse id data)) reply ∈ trace) :
    responses (own index trace) = [(session, id, data)] ∧ ∃ command found request,
      .calls index (.takeRequest command) found ∈ trace ∧ found.request = some request ∧ request.session = session ∧
        request.id = id := by
  obtain ⟨activity, -, made⟩ := ran.activity sent
  rw [← made]
  have responds : (session, id, data) ∈ responses activity.made := by
    rw [made]
    exact List.mem_filterMap.mpr ⟨_, mem_own.mpr sent, rfl⟩
  have leads := activity.leads
  by_cases received : ∃ command data, activity.task = .receiveCommand command data
  · obtain ⟨command, given, task⟩ := received
    have leads : (onReceiveCommand command given).Leads activity.made activity.rest := by
      have leads := activity.leads
      rwa [task] at leads
    have receiving := onReceiveCommand_leads leads
    obtain ⟨part, -⟩ := receiving.responds
    rcases receiving.one_lookup.1 with none | ⟨found, one⟩
    · rw [none] at part
      rw [List.prefix_nil.mp part] at responds
      exact nomatch responds
    · rw [one] at part
      cases found with
      | none =>
        rw [List.prefix_nil.mp part] at responds
        exact nomatch responds
      | some request =>
        change responses activity.made <+: [(request.session, request.id, given)] at part
        obtain ⟨same⟩ := List.mem_singleton.mp (part.subset responds)
        refine ⟨part.eq_of_length_le (List.length_pos_of_mem responds), command, ?_⟩
        have looked : (command, some request) ∈ lookups activity.made := by rw [one]; exact List.mem_singleton_self _
        obtain ⟨⟨call, reply⟩, member, picked⟩ := List.mem_filterMap.mp looked
        rw [made] at member
        cases call with
        | takeRequest sought =>
          obtain ⟨rfl, found⟩ := Prod.mk.inj (Option.some.inj picked)
          exact ⟨reply, request, mem_own.mp member, found, rfl, rfl⟩
        | _ => exact nomatch picked
  · have plain := (handler_plain fun command data task => received ⟨command, data, task⟩).leads activity.leads
    rw [(plain_calls plain).2.2.2] at responds
    exact nomatch responds

theorem found_once {index other : Nat} {command sought : CpuCommand} {reply answer : DaemonReply S Id}
    {request : PendingRequest S Id} (ran : Runs trace pool) (distinct : DistinctIds trace)
    (looked : .calls index (.takeRequest command) reply ∈ trace) (found : reply.request = some request)
    (lookedToo : .calls other (.takeRequest sought) answer ∈ trace) (foundToo : answer.request = some request) :
    index = other := by
  induction ran with
  | refl => exact nomatch looked
  | @step trace pool event after reached step ih =>
    rcases List.mem_append.mp looked with early | now <;> rcases List.mem_append.mp lookedToo with earlyToo | nowToo
    · exact ih distinct.left early earlyToo
    · obtain rfl := List.mem_singleton.mp nowToo
      have waits := ((lookup_some (reached.step step) distinct request).mp foundToo).1
      exact absurd waits (not_waiting_of_found reached distinct.left early found).2
    · obtain rfl := List.mem_singleton.mp now
      have waits := ((lookup_some (reached.step step) distinct request).mp found).1
      exact absurd waits (not_waiting_of_found reached distinct.left earlyToo foundToo).2
    · have same := (List.mem_singleton.mp now).trans (List.mem_singleton.mp nowToo).symm
      injection same

omit [LinearOrder S] [DecidableEq Id] in
theorem mem_responded {history : List (Event S Id)} {id : Id} : id ∈ responded history ↔
    ∃ index session data reply, .calls index (.send session (.requestResponse id data)) reply ∈ history := by
  unfold responded
  rw [List.mem_filterMap]
  constructor
  · rintro ⟨event, member, picked⟩
    split at picked
    · obtain rfl := Option.some.inj picked
      exact ⟨_, _, _, _, member⟩
    · exact nomatch picked
  · rintro ⟨index, session, data, reply, member⟩
    exact ⟨_, member, rfl⟩

theorem responded_nodup (ran : Runs trace pool) (distinct : DistinctIds trace) : (responded trace).Nodup := by
  induction ran with
  | refl => exact List.nodup_nil
  | @step trace pool event after reached step ih =>
    have earlier := ih distinct.left
    have ran := reached.step step
    have append : responded (trace ++ [event]) = responded trace ++ responded [event] := List.filterMap_append
    rw [append]
    refine List.nodup_append.mpr ⟨earlier, ?_, ?_⟩
    · cases event with
      | begins task => exact List.nodup_nil
      | calls index call reply =>
        cases call with
        | send session message => cases message <;> first | exact List.nodup_nil | exact List.nodup_singleton _
        | _ => exact List.nodup_nil
    · rintro id sent _ now rfl
      obtain ⟨index, session, data, reply, member⟩ := mem_responded.mp sent
      obtain ⟨other, sessionToo, dataToo, replyToo, last⟩ := mem_responded.mp now
      obtain rfl := List.mem_singleton.mp last
      obtain ⟨one, command, found, request, looked, taken, -, same⟩ := responder reached member
      obtain ⟨two, sought, answer, requestToo, lookedToo, takenToo, -, sameToo⟩ :=
        responder ran (List.mem_append_right _ (List.mem_singleton_self _))
      obtain rfl := distinct.eq_of_id (not_waiting_of_found ran distinct (List.mem_append_left _ looked) taken).1
        (not_waiting_of_found ran distinct lookedToo takenToo).1 (same.trans sameToo.symm)
      obtain rfl := found_once ran distinct (List.mem_append_left _ looked) taken lookedToo takenToo
      rw [own_calls, if_pos rfl] at two
      have both : responses (own index trace ++ [(.send sessionToo (.requestResponse id dataToo), replyToo)]) =
          responses (own index trace) ++ [(sessionToo, id, dataToo)] := List.filterMap_append
      rw [both, one] at two
      simp at two

/-- `m_requests` is a queue for every command. `lookup`: what is found is the oldest
request that waits. `received` and `others`: only a received command responds, to the
request of its one lookup, with its own data. `handled`: a request, a cancellation and a
disconnect change the queue as they are to, and nothing else does. `gone` and `once`: a
request leaves once and is answered at most once. -/
structure MatchesRequests (trace : List (Event S Id)) (pool : (@system S Id _ _).Pool) : Prop where
  lookup : ∀ before after index command reply, trace = before ++ .calls index (.takeRequest command) reply :: after →
    (∀ request, reply.request = some request ↔ OldestWaiting before command request) ∧
      (reply.request = none ↔ ∀ request, Waiting before request → request.responseCommand ≠ command)
  received : ∀ index activity command data, pool.tasks[index]? = some activity →
    activity.task = .receiveCommand command data →
    (lookups (own index trace) = [] ∨ ∃ found, lookups (own index trace) = [(command, found)]) ∧
      responses (own index trace) <+: (lookups (own index trace)).filterMap (owed data) ∧
      (activity.Finished → lookups (own index trace) ≠ [] ∧
        responses (own index trace) = (lookups (own index trace)).filterMap (owed data))
  others : ∀ index activity, pool.tasks[index]? = some activity →
    (∀ command data, activity.task ≠ .receiveCommand command data) →
      lookups (own index trace) = [] ∧ responses (own index trace) = []
  handled : ∀ index activity, pool.tasks[index]? = some activity →
    (own index trace).filterMap (requestCall ·.1) <+: requestCalls activity.task ∧
      (activity.Finished → (own index trace).filterMap (requestCall ·.1) = requestCalls activity.task)
  kept : pool.shared.requests.Sublist (registered trace) ∧ ∀ request, request ∈ pool.shared.requests ↔
    Waiting trace request
  gone : ∀ request ∈ registered trace,
    (Waiting trace request ↔ ¬ ∃ before, requestPresence.Goes trace request before) ∧
      (¬ Waiting trace request → ∃! before, requestPresence.Goes trace request before)
  once : (responded trace).Nodup

theorem requests_matched (ran : Runs trace pool) (distinct : DistinctIds trace) : MatchesRequests trace pool where
  lookup before after index command reply split := by
    subst split
    exact ⟨lookup_some ran distinct, lookup_none ran distinct⟩
  received index activity command data found task := by
    rw [← made_of_found ran found]
    have leads : (onReceiveCommand command data).Leads activity.made activity.rest := by
      have leads := activity.leads
      rwa [task] at leads
    have receiving := onReceiveCommand_leads leads
    obtain ⟨one, some⟩ := receiving.one_lookup
    obtain ⟨part, all⟩ := receiving.responds
    exact ⟨one, part, fun finished => ⟨some finished, all finished⟩⟩
  others index activity found other := by
    rw [← made_of_found ran found]
    obtain ⟨-, none, -, silent⟩ := plain_calls ((handler_plain other).leads activity.leads)
    exact ⟨none, silent⟩
  handled index activity found := by
    rw [← made_of_found ran found]
    exact Activity.makes (handler_requestCalls activity.task)
  kept := by
    obtain ⟨ordered, members⟩ := keeps_requests ran distinct
    exact ⟨ordered, members⟩
  gone request came := Presence.goes_once distinct.nodup came
  once := responded_nodup ran distinct

/-- Two clients wait for one command, and the first is answered. -/
theorem first_request_answered : ∃ (trace : List (Event Nat Nat)) (pool : _), Runs trace pool ∧ DistinctIds trace ∧
    responded trace = [1] ∧ MatchesRequests trace pool := by
  have checked :
    (play [.begins (.message 7 (.request 1 (3, 0) [5] (4, 0))), .begins (.message 8 (.request 2 (3, 0) [6] (4, 0))),
      .calls 0 true, .calls 1 true, .begins (.receiveCommand (4, 0) [9]), .calls 2 true, .calls 2 true,
        .calls 2 true]).any
      (fun result : List (Event Nat Nat) × _ => decide (DistinctIds result.1 ∧ responded result.1 = [1])) = true := by
    decide +kernel
  obtain ⟨trace, pool, ran, checked⟩ := exists_run replies_allowed checked
  obtain ⟨distinct, sent⟩ := of_decide_eq_true checked
  exact ⟨trace, pool, ran, distinct, sent, requests_matched ran distinct⟩

end
end CpuCom.Messaging.Daemon
