import CpuCom.Messaging.NetworkTurns
import CpuCom.Proofs.RequestTokens

/-! The clients and the daemon agree on the requests that wait for a response, where
messages keep their order. -/

namespace CpuCom.Messaging.Network
open Interaction System
open Uart (CpuCommand)

variable {S Id F : Type} [LinearOrder S] [LinearOrder Id] {delivery : Delivery} {network : Network S Id F}
  {trace : List (NetworkEvent S Id F)} {session other : S} {id : Id}

/-- A handler of this command with this data has found the request. -/
def Answered (trace : List (NetworkEvent S Id F)) (session : S) (id : Id) (responseCommand : CpuCommand) (data : Data) :
    Prop :=
  ∃ index reply, (begun (atDaemon trace))[index]? = some (.receiveCommand responseCommand data) ∧
    .daemon (.calls index (.takeRequest responseCommand) reply) ∈ trace ∧
      reply.request = some ⟨id, responseCommand, session⟩

/-- The client has made the request, and the V-CPU has sent its response command with this data. -/
def Responded (trace : List (NetworkEvent S Id F)) (session : S) (id : Id) (data : Data) : Prop :=
  ∃ requestCommand requestData responseCommand,
    .client session (.begins (.request id requestCommand requestData responseCommand)) ∈ trace ∧
      Answered trace session id responseCommand data

omit [LinearOrder S] [LinearOrder Id] in
theorem Responded.grows {data : Data} (responded : Responded trace session id data) (event : NetworkEvent S Id F) :
    Responded (trace ++ [event]) session id data := by
  obtain ⟨requestCommand, requestData, responseCommand, made, index, reply, task, called, found⟩ := responded
  refine ⟨requestCommand, requestData, responseCommand, List.mem_append_left _ made, index, reply, ?_,
    List.mem_append_left _ called, found⟩
  rw [atDaemon, List.filterMap_append, begun, List.filterMap_append]
  exact (List.getElem?_append_left (List.getElem?_eq_some_iff.mp task).1).trans task

def requestFacts (trace : List (NetworkEvent S Id F)) : Facts S Id F where
  call session task _ := .client session (.begins task) ∈ trace ∧
    ∀ id data, task = .message (.requestResponse id data) → Responded trace session id data
  tables _ client := Unset client
  toDaemon session message := ∀ id requestCommand requestData responseCommand,
    message = .request id requestCommand requestData responseCommand →
      .client session (.begins (.request id requestCommand requestData responseCommand)) ∈ trace
  handler task due :=
    (∀ session id requestCommand requestData responseCommand,
      task = .message session (.request id requestCommand requestData responseCommand) →
        .client session (.begins (.request id requestCommand requestData responseCommand)) ∈ trace) ∧
    ∀ receiver id data, due = some (.send receiver (.requestResponse id data)) → Responded trace receiver id data
  daemon daemon := ∀ request ∈ daemon.requests, ∃ requestCommand requestData,
    .client request.session (.begins (.request request.id requestCommand requestData request.responseCommand)) ∈ trace
  toClient session message := ∀ id data, message = .requestResponse id data → Responded trace session id data

theorem requestFacts_grow (trace : List (NetworkEvent S Id F)) (event : NetworkEvent S Id F) :
    (requestFacts trace).Implies (requestFacts (trace ++ [event])) where
  call session task due holds := by
    obtain ⟨begun, responded⟩ := holds
    exact ⟨List.mem_append_left _ begun, fun id data same => (responded id data same).grows event⟩
  tables session client holds := holds
  toDaemon session message holds id requestCommand requestData responseCommand same :=
    List.mem_append_left _ (holds id requestCommand requestData responseCommand same)
  handler task due holds := by
    obtain ⟨made, responded⟩ := holds
    refine ⟨fun session id requestCommand requestData responseCommand same => ?_, fun receiver id data same => ?_⟩
    · exact List.mem_append_left _ (made session id requestCommand requestData responseCommand same)
    · exact (responded receiver id data same).grows event
  daemon daemon holds request member := by
    obtain ⟨requestCommand, requestData, made⟩ := holds request member
    exact ⟨requestCommand, requestData, List.mem_append_left _ made⟩
  toClient session message holds id data same := (holds id data same).grows event

theorem unset_perform {client : Client Id F} (unset : Unset client) (call : ClientCall Id F) :
    Unset (client.perform call).2 := by
  intro id value found
  cases call with
  | addRequest new =>
    rw [Client.perform, Std.TreeMap.getElem?_insertIfNew] at found
    split at found
    · exact (Option.some.inj found).symm
    · exact unset id value found
  | eraseRequest erased =>
    rw [Client.perform, Std.TreeMap.getElem?_erase] at found
    split at found
    · cases found
    · exact unset id value found
  | fulfil answered data =>
    simp only [Client.perform] at found
    split at found
    · exact unset id value found
    all_goals
      rw [Std.TreeMap.getElem?_erase] at found
      split at found
      · cases found
      · exact unset id value found
  | addCallback command callback =>
    simp only [Client.perform] at found
    split at found <;> exact unset id value found
  | _ => exact unset id value found

theorem requests_perform {daemon : Daemon S Id} {call : DaemonCall S Id} {request : PendingRequest S Id}
    (member : request ∈ (daemon.perform call).2.requests) : call = .addRequest request ∨ request ∈ daemon.requests := by
  cases call with
  | takeRequest command => exact .inr (List.mem_of_mem_eraseP member)
  | cancelRequest id => exact .inr (List.mem_of_mem_eraseP member)
  | dropRequests session => exact .inr (List.mem_of_mem_filter member)
  | addRequest added =>
    rcases List.mem_append.mp member with member | member
    · exact .inr member
    · exact .inl (List.mem_singleton.mp member ▸ rfl)
  | _ => exact .inr member

theorem requestFacts_kept : Facts.Kept (requestFacts : List (NetworkEvent S Id F) → Facts S Id F) where
  grows := requestFacts_grow
  begins trace session task begun api := ⟨begun, fun id data same => absurd same (api _)⟩
  delivered trace session message begun holds :=
    ⟨begun, fun id data same => holds id data (ClientTask.message.inj same)⟩
  handed trace session message holds := by
    refine ⟨?_, ?_⟩
    · intro sender id requestCommand requestData responseCommand same
      obtain ⟨rfl, rfl⟩ := DaemonTask.message.inj same
      exact holds id requestCommand requestData responseCommand rfl
    · intro receiver id data same
      cases message <;> exact nomatch same
  received trace command data begun := ⟨nofun, nofun⟩
  calls := by
    intro trace session index task call reply due client called move holds tables replied
    refine ⟨holds, unset_perform tables call, ?_⟩
    rintro _ rfl id requestCommand requestData responseCommand rfl
    cases move with
    | requestSent => exact holds.1
  handles := by
    intro trace index task call reply due daemon after called caller move holds stored answered
    obtain ⟨made, responded⟩ := holds
    obtain ⟨shared, replied⟩ := answered
    refine ⟨⟨made, ?_⟩, ?_, ?_⟩
    · rintro receiver id data rfl
      cases move with
      | copied notifying => exact nomatch notifying
      | notified notifying => exact nomatch notifying
      | @found command _ _ request found =>
        have replied : reply = _ := replied.resolve_left nofun
        have lookup : daemon.requests.find? (fun request => decide (request.responseCommand = command)) =
            some request := by
          rw [replied] at found
          exact found
        have same : request.responseCommand = command := by simpa using List.find?_some lookup
        obtain ⟨requestCommand, requestData, began⟩ := stored request (List.mem_of_find?_eq_some lookup)
        subst same
        exact ⟨requestCommand, requestData, request.responseCommand, began, index, reply, caller, called, found⟩
    · intro request member
      rw [shared] at member
      rcases requests_perform member with rfl | member
      · cases move with
        | requestAdded => exact ⟨_, _, made _ _ _ _ _ rfl⟩
      · exact stored request member
    · rintro receiver _ rfl id data rfl
      exact responded receiver id data rfl

theorem requestFacts_hold (ran : Runs delivery trace network) : (requestFacts trace).Hold network := by
  refine requestFacts_kept.hold ran (fun session errorCallback id value found => ?_)
    (fun request member => nomatch member)
  simp [Client.initial] at found

theorem requests_kept (ran : Runs .inOrder trace network) (id : Id) :
    ∀ session, RequestKept trace network session id := by
  obtain ⟨errorCallbacks, ran⟩ := ran
  induction ran with
  | refl =>
    intro session
    refine ⟨?_, .nil⟩
    have none : pending (Client.initial (errorCallbacks session) : Client Id F) id = 0 := by
      simp [pending, Client.initial]
    have zero : tally [] (initial errorCallbacks) session id =
      ⟨0, 0, 0, 0, 0, 0, pending (Client.initial (errorCallbacks session) : Client Id F) id, 0, 0, 0, 0⟩ := rfl
    rw [zero, none]
    constructor <;> simp
  | step reached step ih =>
    have ran : Runs .inOrder _ _ := ⟨errorCallbacks, reached⟩
    obtain ⟨one, only⟩ := one_maker ran id
    have hold := requestFacts_hold ran
    exact RequestKept.step ih one only hold.tables ran.connected step

/-- A promise is set once at most, by the response to its own request. -/
theorem fulfil_once (ran : Runs delivery trace network) {index : Nat} {data : Data} {reply : ClientReply F}
    (called : .client session (.calls index (.fulfil id data) reply) ∈ trace) :
    reply.satisfied = false ∧ Responded trace session id data := by
  obtain ⟨errorCallbacks, ran⟩ := ran
  induction ran with
  | refl => exact nomatch called
  | @step trace network event after reached step ih =>
    rcases List.mem_append.mp called with early | now
    · exact ⟨(ih early).1, (ih early).2.grows event⟩
    · obtain rfl := List.mem_singleton.mp now
      have hold := requestFacts_hold ⟨errorCallbacks, reached⟩
      cases step with
      | clientCalls step =>
        obtain ⟨task, due, move, -, answered, -, all⟩ := client_called step
        obtain ⟨replied, -⟩ := Prod.mk.inj answered
        obtain ⟨-, responded⟩ := (all _ (hold.calls session)).1
        constructor
        · rw [replied]
          exact (@fulfil_reply _ _ _ id _ data (hold.tables session)).1
        · cases move with
          | fulfilled => exact (responded id data rfl).grows _

def requestsOf (id : Id) (messages : List (ClientMessage Id)) : Nat :=
  messages.countP fun
    | .request sent _ _ _ => sent = id
    | _ => false

def responsesOf (id : Id) (messages : List (ServerMessage Id)) : Nat :=
  messages.countP fun
    | .requestResponse answered _ => answered = id
    | _ => false

theorem requestsOf_eq {messages : List (ClientMessage Id)} :
    requestsOf id messages = (messages.map (requested session id : Weights S Id F).toDaemon).sum := by
  induction messages with
  | nil => rfl
  | cons message messages ih =>
    unfold requestsOf at *
    rw [List.countP_cons, List.map_cons, List.sum_cons, ih, Nat.add_comm]
    cases message <;> simp [requested]

theorem responsesOf_eq {messages : List (ServerMessage Id)} :
    responsesOf id messages = (messages.map (responding session id : Weights S Id F).toClient).sum := by
  induction messages with
  | nil => rfl
  | cons message messages ih =>
    unfold responsesOf at *
    rw [List.countP_cons, List.map_cons, List.sum_cons, ih, Nat.add_comm]
    cases message <;> simp [responding]

theorem weigh_resting {weights : Weights S Id F} (daemon : network.daemon.Idle)
    (client : (network.clients session).Idle)
    (noCall : ∀ task, weights.client task none = 0) (noHandler : ∀ task, weights.daemon task none = 0) :
    weigh weights session network =
      ((network.toDaemon session).map weights.toDaemon).sum +
      ((network.toClient session).map weights.toClient).sum := by
  rw [weigh, client.weigh noCall, daemon.weigh noHandler]
  omega

/-- How far the tables of a client and of the daemon agree about requests. `one`: a
pending request is on its way to the daemon, waits there, or its response is on its
way back, and only one of these; `resting` says so of the messages while nobody is at
work. `set` and `once`: a promise is set once at most, by a response to its own
request, and no request has the id of another. `quiet`: the daemon has the pending
requests where nothing is in flight. -/
structure RequestsAgree (trace : List (NetworkEvent S Id F)) (network : Network S Id F) : Prop where
  one : ∀ session, ∀ id ∈ (network.clients session).shared.requests,
    weigh (requested session id) session network + waiting network.daemon.shared session id +
      weigh (responding session id) session network = 1
  resting : ∀ session, network.daemon.Idle → (network.clients session).Idle →
    ∀ id ∈ (network.clients session).shared.requests,
    requestsOf id (network.toDaemon session) + waiting network.daemon.shared session id + responsesOf id
      (network.toClient session) = 1
  set : ∀ session index id data reply, .client session (.calls index (.fulfil id data) reply) ∈ trace →
    reply.satisfied = false ∧ Responded trace session id data
  once : ∀ session, (fulfilled session trace).Nodup
  fresh : ∀ session other task made id, .client session (.begins task) ∈ trace → .client other (.begins made) ∈ trace →
    Client.newId task = some id → Client.newId made = some id → session = other ∧ task = made
  quiet : ∀ session, network.Quiet session → ∀ id,
    (∃ request ∈ network.daemon.shared.requests, request.id = id ∧ request.session = session) ↔
      id ∈ (network.clients session).shared.requests

private theorem resting_requested : (∀ task, (requested session id : Weights S Id F).client task none = 0) ∧
    ∀ task, (requested session id : Weights S Id F).daemon task none = 0 := by
  refine ⟨fun task => by cases task <;> rfl, fun task => ?_⟩
  cases task with
  | message sender message => cases message <;> rfl
  | _ => rfl

theorem requests_agree (ran : Runs .inOrder trace network) : RequestsAgree trace network := by
  have exactly (session : S) (id : Id) (there : id ∈ (network.clients session).shared.requests) :
      weigh (requested session id) session network + waiting network.daemon.shared session id +
        weigh (responding session id) session network = 1 := by
    obtain ⟨-, token, entry, -, -, -, -⟩ := (requests_kept ran id session).tally
    have one := (one_maker ran id).1 session
    simp only [tally, pending, if_pos there] at token entry
    omega
  refine ⟨exactly, ?_, ?_, ?_, ?_, ?_⟩
  · intro session daemon client id there
    have one := exactly session id there
    rw [weigh_resting daemon client resting_requested.1 resting_requested.2,
      weigh_resting daemon client (fun _ => rfl) (fun _ => rfl), ← requestsOf_eq, ← responsesOf_eq] at one
    have back : ((network.toClient session).map (requested session id : Weights S Id F).toClient).sum = 0 := by
      simp [requested]
    have there : ((network.toDaemon session).map (responding session id : Weights S Id F).toDaemon).sum = 0 := by
      simp [responding]
    omega
  · intro session index id data reply called
    exact fulfil_once ran called
  · intro session
    refine List.nodup_iff_count.mpr fun id => ?_
    have once := (requests_kept ran id session).tally.once
    have one := (one_maker ran id).1 session
    simp only [tally] at once
    omega
  · intro session other task made id begun begunToo newId newIdToo
    exact newId_unique ran begun begunToo newId newIdToo
  · intro session quiet id
    have requesting : weigh (requested session id) session network = 0 :=
      quiet.weigh resting_requested.1 resting_requested.2
    have answering : weigh (responding session id) session network = 0 := quiet.weigh (fun _ => rfl) fun _ => rfl
    have withdrawn : weigh (cancelling session id) session network = 0 := by
      refine quiet.weigh (fun _ => rfl) fun task => ?_
      cases task with
      | message sender message => cases message <;> rfl
      | _ => rfl
    have entry := (requests_kept ran id session).tally.pending
    have left := (requests_kept ran id session).tally.left
    simp only [tally] at entry left
    constructor
    · rintro ⟨request, member, same, own⟩
      have counted : 0 < waiting network.daemon.shared session id :=
        List.countP_pos_iff.mpr ⟨request, member, decide_eq_true ⟨same, own⟩⟩
      by_contra absent
      rw [pending, if_neg absent] at left
      omega
    · intro there
      rw [pending, if_pos there] at entry
      have counted : 0 < waiting network.daemon.shared session id := by omega
      obtain ⟨request, member, same⟩ := List.countP_pos_iff.mp counted
      exact ⟨request, member, of_decide_eq_true same⟩

/-- The second of two requests is cancelled while its response is on the way, a third
one waits, and a fourth is cancelled at the daemon. -/
theorem crossing_requests_agree :
    ∃ (trace : List (NetworkEvent (Fin 2) Nat Nat)) (network : _), Runs .inOrder trace network ∧
    fulfilled 0 trace = [1] ∧ network.Quiet 0 ∧ 3 ∈ (network.clients 0).shared.requests ∧
      RequestsAgree trace network := by
  have checked : (play .inOrder (initial fun _ => none) [
      .clientBegins 0 (.request 1 (1, 0) [] (2, 0)), .clientCalls 0 0, .clientBegins 0 (.request 2 (1, 0) [] (2, 0)),
      .clientCalls 0 1, .clientCalls 0 0, .clientCalls 0 1, .handles 0 0, .daemonCalls 0 true, .daemonCalls 0 true,
      .handles 0 0, .daemonCalls 1 true, .received (2, 0) [7], .daemonCalls 2 true, .daemonCalls 2 true,
        .daemonCalls 1 false,
      .received (2, 0) [8], .daemonCalls 3 true, .daemonCalls 3 true, .clientBegins 0 (.cancel 2), .clientCalls 0 2,
      .daemonCalls 2 true, .daemonCalls 3 true, .clientCalls 0 2, .clientReceives 0 0, .clientReceives 0 0,
        .clientCalls 0 4,
      .clientCalls 0 3, .clientBegins 0 (.request 3 (1, 0) [] (2, 0)), .clientCalls 0 5, .clientCalls 0 5,
      .clientBegins 0 (.request 4 (1, 0) [] (2, 0)), .clientCalls 0 6, .clientCalls 0 6, .clientBegins 0 (.cancel 4),
      .clientCalls 0 7, .clientCalls 0 7, .handles 0 0, .daemonCalls 4 true, .handles 0 0, .daemonCalls 5 true,
      .daemonCalls 5 true, .handles 0 0, .daemonCalls 6 true, .daemonCalls 6 true, .handles 0 0,
        .daemonCalls 7 true]).any
      (fun result : List (NetworkEvent (Fin 2) Nat Nat) × _ =>
        decide (fulfilled 0 result.1 = [1] ∧ result.2.Quiet 0 ∧ 3 ∈ (result.2.clients 0).shared.requests)) = true := by
    decide +kernel
  obtain ⟨trace, network, ran, checked⟩ := exists_run checked
  obtain ⟨set, quiet, waits⟩ := of_decide_eq_true checked
  exact ⟨trace, network, ran, set, quiet, waits, requests_agree ran⟩

end CpuCom.Messaging.Network
