import CpuCom.Messaging.NetworkTurns
import CpuCom.Proofs.FreshIds
import CpuCom.Proofs.NetworkFacts

/-! A send with a delivery status moves one token, from the call to the daemon and
back, for as long as its callback is in the table. -/

namespace CpuCom.Messaging.Network
open Interaction System
open Uart (CpuCommand)

variable {S Id F : Type} [LinearOrder S] [LinearOrder Id] {delivery : Delivery} {network : Network S Id F}
  {trace : List (NetworkEvent S Id F)} {session other : S} {id : Id}

def statusAwaited (id : Id) : Weights S Id F := .onClient fun _ due =>
  match due with
  | some (.addStatusCallback new _) => if new = id then 1 else 0
  | _ => 0

/-- The send is on its way out, or its status on the way back. -/
def statusToken (session : S) (id : Id) : Weights S Id F where
  client _ due :=
    match due with
    | some (.send (.sendCommandWithDeliveryStatus sent _ _)) => if sent = id then 1 else 0
    | some (.takeStatusCallback returned) => if returned = id then 1 else 0
    | _ => 0
  toDaemon
    | .sendCommandWithDeliveryStatus sent _ _ => if sent = id then 1 else 0
    | _ => 0
  daemon task due :=
    match task, due with
    | .message sender (.sendCommandWithDeliveryStatus sent _ _), some _ => if sender = session ∧ sent = id then 1 else 0
    | _, _ => 0
  toClient
    | .deliveryStatus returned _ => if returned = id then 1 else 0
    | _ => 0

def statusDue (id : Id) : Weights S Id F := .onClient fun _ due =>
  match due with
  | some (.callDeliveryStatus told _ _) => if told = id then 1 else 0
  | _ => 0

def told (session : S) (trace : List (NetworkEvent S Id F)) : List Id :=
  trace.filterMap fun
    | .client caller (.calls _ (.callDeliveryStatus id _ _) _) => if caller = session then some id else none
    | _ => none

def statusEntry (client : Client Id F) (id : Id) : Nat := if id ∈ client.deliveryStatusCallbacks then 1 else 0

/-- The callback is in the table while its token is under way, and is called at most
once for each call that has made the id. -/
structure StatusKept (trace : List (NetworkEvent S Id F)) (network : Network S Id F) (session : S) (id : Id) :
    Prop where
  table : statusEntry (network.clients session).shared id = weigh (statusToken session id) session network
  once : (told session trace).count id + weigh (statusDue id) session network +
      weigh (statusToken session id) session network + weigh (statusAwaited id) session network ≤
    weigh (makers id) session network

theorem statusAwaited_carried : (statusAwaited id : Weights S Id F).Carried session :=
  Weights.carried_onClient fun message => by cases message <;> rfl

theorem statusDue_carried : (statusDue id : Weights S Id F).Carried session :=
  Weights.carried_onClient fun message => by cases message <;> rfl

theorem statusToken_carried : (statusToken session id : Weights S Id F).Carried session where
  received _ _ := rfl
  handed other message := by
    cases message with
    | sendCommandWithDeliveryStatus sent command data => simp [statusToken, Daemon.first, ite_and]
    | _ => exact (ite_self _).symm
  delivered message := by cases message <;> rfl

theorem statusToken_conserved : (statusToken session id : Weights S Id F).Conserved session := by
  intro task call reply due move
  cases move with
  | statusWritten => rfl
  | statusSent => simp [statusToken, Weights.replied, ite_and]
  | notified | answered | busySent => simp [statusToken, Weights.replied]
  | _ => rfl

theorem statusEntry_perform {client : Client Id F} {call : ClientCall Id F} : statusEntry (client.perform call).2 id =
    match call with
    | .addStatusCallback new _ => if new = id then 1 else statusEntry client id
    | .takeStatusCallback taken => if taken = id then 0 else statusEntry client id
    | _ => statusEntry client id := by
  cases call with
  | addStatusCallback new callback =>
    by_cases same : new = id <;> simp [statusEntry, Client.perform, Std.TreeMap.mem_insertIfNew, same]
  | takeStatusCallback taken =>
    by_cases same : taken = id <;>
      simp [statusEntry, Client.perform, Std.TreeMap.mem_erase, Std.TreeMap.mem_insertIfNew, same]
  | fulfil other data =>
    simp only [Client.perform]
    split <;> rfl
  | addCallback command callback =>
    simp only [Client.perform]
    split <;> rfl
  | _ => rfl

omit [LinearOrder Id] in
theorem told_snoc {event : NetworkEvent S Id F} :
    told session (trace ++ [event]) = told session trace ++ told session [event] :=
  List.filterMap_append

private theorem StatusKept.moved {after : Network S Id F} {task : ClientTask Id F} {due : Option (ClientCall Id F)}
    {index : Nat} {call : ClientCall Id F} {reply : ClientReply F} (kept : StatusKept trace network session id)
    (one : weigh (makers id) session network ≤ 1) (move : ClientMove task call reply due)
    (shared : (after.clients session).shared = ((network.clients session).shared.perform call).2)
    (sums : ∀ weights : Weights S Id F, weigh weights session after + weights.client task (some call) =
      weigh weights session network + weights.client task due + weights.posted call) :
    StatusKept (trace ++ [.client session (.calls index call reply)]) after session id := by
  obtain ⟨table, calls⟩ := kept
  have token := sums (statusToken session id)
  have awaited := sums (statusAwaited id)
  have telling := sums (statusDue id)
  have made := sums (makers id)
  rw [posted_makers] at made
  replace made := Nat.add_right_cancel made
  have bound : weigh (statusToken session id) session network + weigh (statusAwaited id) session network ≤ 1 := by omega
  suffices kept : statusEntry (after.clients session).shared id = weigh (statusToken session id) session after ∧
      (told session [.client session (.calls index call reply)]).count id + weigh (statusDue id) session after +
        weigh (statusToken session id) session after + weigh (statusAwaited id) session after ≤
      weigh (statusDue id) session network + weigh (statusToken session id) session network +
        weigh (statusAwaited id) session network by
    refine ⟨kept.1, ?_⟩
    rw [told_snoc, List.count_append]
    omega
  rw [shared, statusEntry_perform]
  cases move with
  | @statusAwaited new =>
    change _ + 0 = _ + (if new = id then 1 else 0) + 0 at token
    change _ + (if new = id then 1 else 0) = _ + 0 + 0 at awaited
    change _ + 0 = _ + 0 + 0 at telling
    change _ ∧ 0 + _ + _ + _ ≤ _
    by_cases same : new = id
    · simp only [same, if_true] at *
      omega
    · simp only [same, if_false] at *
      omega
  | @statusSent sent =>
    change _ + (if sent = id then 1 else 0) = _ + 0 + (if sent = id then 1 else 0) at token
    change _ + 0 = _ + 0 + 0 at awaited
    change _ + 0 = _ + 0 + 0 at telling
    change _ ∧ 0 + _ + _ + _ ≤ _
    simp only []
    omega
  | @statusFound returned status _ callback found =>
    change _ + (if returned = id then 1 else 0) = _ + 0 + 0 at token
    change _ + 0 = _ + 0 + 0 at awaited
    change _ + 0 = _ + (if returned = id then 1 else 0) + 0 at telling
    change _ ∧ 0 + _ + _ + _ ≤ _
    by_cases same : returned = id
    · simp only [same, if_true] at *
      omega
    · simp only [same, if_false] at *
      omega
  | @statusMissed returned status _ missed =>
    change _ + (if returned = id then 1 else 0) = _ + 0 + 0 at token
    change _ + 0 = _ + 0 + 0 at awaited
    change _ + 0 = _ + 0 + 0 at telling
    change _ ∧ 0 + _ + _ + _ ≤ _
    by_cases same : returned = id
    · simp only [same, if_true] at *
      omega
    · simp only [same, if_false] at *
      omega
  | @statusTold said status _ callback =>
    change _ + 0 = _ + 0 + 0 at token
    change _ + 0 = _ + 0 + 0 at awaited
    change _ + (if said = id then 1 else 0) = _ + 0 + 0 at telling
    have now : told session
      [.client session (.calls index (.callDeliveryStatus said callback status : ClientCall Id F) reply)] =
        [said] := by
      simp [told]
    rw [now, List.count_singleton]
    by_cases same : said = id
    · subst same
      simp only [if_true, beq_self_eq_true] at *
      omega
    · simp only [same, if_false, beq_iff_eq] at *
      omega
  | _ =>
    change _ + 0 = _ + 0 + 0 at token
    change _ + 0 = _ + 0 + 0 at awaited
    change _ + 0 = _ + 0 + 0 at telling
    change _ ∧ 0 + _ + _ + _ ≤ _
    simp only []
    omega

private theorem StatusKept.same {after : Network S Id F} {event : NetworkEvent S Id F}
    (kept : StatusKept trace network session id)
    (shared : (after.clients session).shared = (network.clients session).shared) (quiet : told session [event] = [])
    (token : weigh (statusToken session id) session after = weigh (statusToken session id) session network)
    (telling : weigh (statusDue id) session after = weigh (statusDue id) session network)
    (made : weigh (statusAwaited id) session after + weigh (makers id) session network ≤
      weigh (statusAwaited id) session network + weigh (makers id) session after) :
    StatusKept (trace ++ [event]) after session id := by
  obtain ⟨table, once⟩ := kept
  constructor
  · rw [shared, token, table]
  · rw [told_snoc, quiet, List.append_nil, token, telling]
    omega

private theorem StatusKept.step {after : Network S Id F} {event : NetworkEvent S Id F}
    (kept : StatusKept trace network session id)
    (one : weigh (makers id) session network ≤ 1) (step : Step delivery network event after) :
    StatusKept (trace ++ [event]) after session id := by
  cases step with
  | received step =>
    refine kept.same rfl rfl (carried_received statusToken_carried step) (carried_received statusDue_carried step) ?_
    rw [carried_received statusAwaited_carried step, carried_received makers_carried step]
  | handles taken ready step =>
    refine kept.same rfl rfl (carried_handles statusToken_carried taken step)
      (carried_handles statusDue_carried taken step) ?_
    rw [carried_handles statusAwaited_carried taken step, carried_handles makers_carried taken step]
  | daemonCalls step =>
    refine kept.same rfl rfl (conserved_calls statusToken_conserved step)
      (conserved_calls Weights.conserved_onClient step) ?_
    rw [statusAwaited, makers, conserved_calls Weights.conserved_onClient step,
      conserved_calls Weights.conserved_onClient step]
  | @clientBegins other task pool allowed step =>
    have token : (statusToken session id : Weights S Id F).client task (some (Client.first task)) = 0 := by
      cases task with
      | message message => exact allowed.elim
      | _ => rfl
    have telling : (statusDue id : Weights S Id F).client task (some (Client.first task)) = 0 := by
      cases task with
      | message message => exact allowed.elim
      | _ => rfl
    have awaited : (statusAwaited id : Weights S Id F).client task (some (Client.first task)) ≤
        (makers id : Weights S Id F).client task (some (Client.first task)) := by
      cases task with
      | sendWithDeliveryStatus new command data callback =>
        simp [statusAwaited, makers, Weights.onClient, Client.first, Client.newId]
      | message message => exact allowed.elim
      | _ => exact Nat.zero_le _
    refine kept.same (shared_of_begins step session) rfl ?_ ?_ ?_
    · rw [weigh_clientBegins _ session step, token, ite_self, Nat.add_zero]
    · rw [weigh_clientBegins _ session step, telling, ite_self, Nat.add_zero]
    · rw [weigh_clientBegins _ session step, weigh_clientBegins _ session step]
      split <;> omega
  | @clientReceives other message rest pool taken step =>
    refine kept.same (shared_of_begins step session) rfl (carried_receives statusToken_carried taken step)
      (carried_receives statusDue_carried taken step) ?_
    rw [carried_receives statusAwaited_carried taken step, carried_receives makers_carried taken step]
  | @clientCalls other index call reply pool step =>
    by_cases same : other = session
    · subst same
      obtain ⟨task, due, move, -, answered, sums, -⟩ := client_called step
      refine kept.moved one move ?_ sums
      change (Function.update network.clients other pool other).shared = _
      rw [Function.update_self]
      exact congrArg Prod.snd answered
    · have quiet : told session [.client other (.calls index call reply)] = [] := by
        cases call with
        | callDeliveryStatus told callback status => simp [Network.told, same]
        | _ => rfl
      refine kept.same (congrArg System.Pool.shared (clients_of_ne same)) quiet (weigh_other _ same)
        (weigh_other _ same) ?_
      rw [weigh_other _ same, weigh_other _ same]

theorem status_kept (ran : Runs delivery trace network) (session : S) (id : Id) :
    StatusKept trace network session id := by
  obtain ⟨errorCallbacks, ran⟩ := ran
  induction ran with
  | refl => exact ⟨by simp [statusEntry, initial, Client.initial]; rfl, Nat.le_refl 0⟩
  | step reached step ih => exact ih.step ((one_maker ⟨errorCallbacks, reached⟩ id).1 session) step

/-- The daemon's handler of this very send has got this result from the V-CPU. -/
def Wrote (trace : List (NetworkEvent S Id F)) (session : S) (id : Id) (command : CpuCommand) (data : Data)
    (status : Bool) : Prop :=
  ∃ index reply,
    (begun (atDaemon trace))[index]? = some (.message session (.sendCommandWithDeliveryStatus id command data)) ∧
    .daemon (.calls index (.write command data) reply) ∈ trace ∧ reply.written = status

/-- The client has sent the command with this id, and this is the result. -/
def Reported (trace : List (NetworkEvent S Id F)) (session : S) (id : Id) (status : Bool) : Prop :=
  ∃ command data callback, .client session (.begins (.sendWithDeliveryStatus id command data callback)) ∈ trace ∧
    Wrote trace session id command data status

omit [LinearOrder S] [LinearOrder Id] in
theorem Wrote.grows {command : CpuCommand} {data : Data} {status : Bool}
    (wrote : Wrote trace session id command data status)
    (event : NetworkEvent S Id F) : Wrote (trace ++ [event]) session id command data status := by
  obtain ⟨index, reply, task, called, written⟩ := wrote
  refine ⟨index, reply, ?_, List.mem_append_left _ called, written⟩
  rw [atDaemon, List.filterMap_append, begun, List.filterMap_append]
  exact (List.getElem?_append_left (List.getElem?_eq_some_iff.mp task).1).trans task

omit [LinearOrder S] [LinearOrder Id] in
theorem Reported.grows {status : Bool} (reported : Reported trace session id status) (event : NetworkEvent S Id F) :
    Reported (trace ++ [event]) session id status := by
  obtain ⟨command, data, callback, begun, wrote⟩ := reported
  exact ⟨command, data, callback, List.mem_append_left _ begun, wrote.grows event⟩

def statusFacts (trace : List (NetworkEvent S Id F)) : Facts S Id F where
  call session task due := .client session (.begins task) ∈ trace ∧
    (∀ id status, task = .message (.deliveryStatus id status) → Reported trace session id status) ∧
    ∀ id callback status, due = some (.callDeliveryStatus id callback status) →
      ∃ command data, .client session (.begins (.sendWithDeliveryStatus id command data (some callback))) ∈ trace
  tables session client := ∀ id callback, client.deliveryStatusCallbacks[id]? = some callback →
    ∃ command data, .client session (.begins (.sendWithDeliveryStatus id command data callback)) ∈ trace
  toDaemon session message := ∀ id command data, message = .sendCommandWithDeliveryStatus id command data →
    ∃ callback, .client session (.begins (.sendWithDeliveryStatus id command data callback)) ∈ trace
  handler task due :=
    ∀ session id command data, task = .message session (.sendCommandWithDeliveryStatus id command data) →
    (∃ callback, .client session (.begins (.sendWithDeliveryStatus id command data callback)) ∈ trace) ∧
      ∀ receiver told status, due = some (.send receiver (.deliveryStatus told status)) →
        Wrote trace session id command data status
  daemon _ := True
  toClient session message := ∀ id status, message = .deliveryStatus id status → Reported trace session id status

theorem statusFacts_grow (trace : List (NetworkEvent S Id F)) (event : NetworkEvent S Id F) :
    (statusFacts trace).Implies (statusFacts (trace ++ [event])) where
  call session task due holds := by
    obtain ⟨begun, returned, found⟩ := holds
    refine ⟨List.mem_append_left _ begun, fun id status same => (returned id status same).grows event, ?_⟩
    intro id callback status same
    obtain ⟨command, data, begun⟩ := found id callback status same
    exact ⟨command, data, List.mem_append_left _ begun⟩
  tables session client holds id callback found := by
    obtain ⟨command, data, begun⟩ := holds id callback found
    exact ⟨command, data, List.mem_append_left _ begun⟩
  toDaemon session message holds id command data same := by
    obtain ⟨callback, begun⟩ := holds id command data same
    exact ⟨callback, List.mem_append_left _ begun⟩
  handler task due holds session id command data same := by
    obtain ⟨⟨callback, begun⟩, wrote⟩ := holds session id command data same
    exact ⟨⟨callback, List.mem_append_left _ begun⟩,
      fun receiver told status due => (wrote receiver told status due).grows event⟩
  daemon _ _ := trivial
  toClient session message holds id status same := (holds id status same).grows event

theorem statusCallback_perform {client : Client Id F} {call : ClientCall Id F} {callback : Option F}
    (found : (client.perform call).2.deliveryStatusCallbacks[id]? = some callback) :
    call = .addStatusCallback id callback ∨ client.deliveryStatusCallbacks[id]? = some callback := by
  cases call with
  | addStatusCallback new added =>
    rw [Client.perform, Std.TreeMap.getElem?_insertIfNew] at found
    split at found
    · rename_i same
      obtain rfl := Std.LawfulEqCmp.eq_of_compare same.1
      exact .inl (congrArg _ (Option.some.inj found))
    · exact .inr found
  | takeStatusCallback taken =>
    simp only [Client.perform, Std.TreeMap.getElem?_erase, Std.TreeMap.getElem?_insertIfNew] at found
    split at found
    · exact nomatch found
    · rename_i different
      rw [if_neg fun same => different same.1] at found
      exact .inr found
  | fulfil other data =>
    right
    simp only [Client.perform] at found
    split at found <;> exact found
  | addCallback command added =>
    right
    simp only [Client.perform] at found
    split at found <;> exact found
  | _ => exact .inr found

theorem callback_found {client : Client Id F} {callback : F}
    (taken : (client.perform (.takeStatusCallback id)).1.callback = some callback) :
    client.deliveryStatusCallbacks[id]? = some (some callback) := by
  simp only [Client.perform, Std.TreeMap.getD_insertIfNew] at taken
  split at taken
  · exact nomatch taken
  · rw [Std.TreeMap.getD_eq_getD_getElem?] at taken
    cases found : client.deliveryStatusCallbacks[id]? with
    | none =>
      rw [found] at taken
      exact nomatch taken
    | some there =>
      rw [found] at taken
      exact congrArg some taken

theorem statusFacts_kept : Facts.Kept (statusFacts : List (NetworkEvent S Id F) → Facts S Id F) where
  grows := statusFacts_grow
  begins trace session task begun api := by
    refine ⟨begun, fun id status same => absurd same (api _), fun id callback status due => ?_⟩
    cases task with
    | message message => exact absurd rfl (api message)
    | _ => exact nomatch due
  delivered trace session message begun holds := by
    refine ⟨begun, fun id status same => holds id status (ClientTask.message.inj same),
      fun id callback status due => ?_⟩
    cases message <;> exact nomatch due
  handed trace session message holds receiver id command data same := by
    obtain ⟨rfl, rfl⟩ := DaemonTask.message.inj same
    exact ⟨holds id command data rfl, fun receiver told status due => nomatch due⟩
  received trace command data begun session id sent given same := nomatch same
  calls := by
    intro trace session index task call reply due client called move holds tables replied
    obtain ⟨begun, returned, found⟩ := holds
    refine ⟨⟨begun, returned, ?_⟩, ?_, ?_⟩
    · rintro id callback status rfl
      cases move with
      | statusFound taken =>
        rw [replied] at taken
        exact tables id (some callback) (callback_found taken)
    · intro id callback entered
      rcases statusCallback_perform entered with rfl | there
      · cases move with
        | statusAwaited => exact ⟨_, _, begun⟩
      · exact tables id callback there
    · rintro _ rfl id command data rfl
      cases move with
      | statusSent => exact ⟨_, begun⟩
  handles := by
    intro trace index task call reply due daemon after called caller move holds _ answered
    refine ⟨?_, trivial, ?_⟩
    · rintro session id command data rfl
      refine ⟨(holds session id command data rfl).1, ?_⟩
      rintro receiver told status rfl
      cases move with
      | statusWritten => exact ⟨index, reply, caller, called, rfl⟩
    · rintro receiver _ rfl id status rfl
      cases move with
      | @statusSent _ _ command data =>
        obtain ⟨⟨callback, begun⟩, wrote⟩ := holds receiver id command data rfl
        exact ⟨command, data, callback, begun, wrote receiver id status rfl⟩

/-- A callback that is called was given with this id, and told the result of its write. -/
theorem told_reported (ran : Runs delivery trace network) {index : Nat} {callback : F} {status : Bool}
    {reply : ClientReply F}
    (called : .client session (.calls index (.callDeliveryStatus id callback status) reply) ∈ trace) :
    ∃ command data, .client session (.begins (.sendWithDeliveryStatus id command data (some callback))) ∈ trace ∧
      Wrote trace session id command data status := by
  obtain ⟨errorCallbacks, ran⟩ := ran
  induction ran with
  | refl => exact nomatch called
  | @step trace network event after reached step ih =>
    rcases List.mem_append.mp called with early | now
    · obtain ⟨command, data, begun, wrote⟩ := ih early
      exact ⟨command, data, List.mem_append_left _ begun, wrote.grows event⟩
    · obtain rfl := List.mem_singleton.mp now
      have ran : Runs delivery trace network := ⟨errorCallbacks, reached⟩
      have hold := statusFacts_kept.hold ran
        (fun session errorCallback id callback found => by simp [Client.initial] at found) trivial
      cases step with
      | clientCalls step =>
        obtain ⟨task, due, move, -, -, -, all⟩ := client_called step
        obtain ⟨-, returned, found⟩ := (all _ (hold.calls session)).1
        cases move with
        | statusTold =>
          obtain ⟨command, data, given, begun, wrote⟩ := returned id status rfl
          obtain ⟨sent, content, begunToo⟩ := found id callback status rfl
          obtain ⟨-, same⟩ := newId_unique ran begun begunToo rfl rfl
          injection same with _ one two three
          subst one two three
          exact ⟨command, data, List.mem_append_left _ begun, wrote.grows _⟩

theorem unknown_status (client : Client Id F) (unknown : id ∉ client.deliveryStatusCallbacks) :
    (client.perform (.takeStatusCallback id)).1.callback = none ∧
      ∀ other : Id, (client.perform (.takeStatusCallback id)).2.deliveryStatusCallbacks[other]? =
        client.deliveryStatusCallbacks[other]? := by
  constructor
  · cases found : (client.perform (.takeStatusCallback id)).1.callback with
    | none => rfl
    | some callback =>
      exact absurd (Std.TreeMap.mem_iff_isSome_getElem?.mpr (by rw [callback_found found]; rfl)) unknown
  · intro other
    simp only [Client.perform, Std.TreeMap.getElem?_erase, Std.TreeMap.getElem?_insertIfNew]
    split
    · rename_i same
      obtain rfl := Std.LawfulEqCmp.eq_of_compare same
      exact (Std.TreeMap.getElem?_eq_none unknown).symm
    · rename_i different
      exact if_neg fun same => different same.1

/-- What is told about the sends. `once` and `genuine`: a callback is called at most
once, with the result of the write of its own send. `fresh`: no other send has its
id. `unknown`: an unknown id calls nothing and changes nothing. `table` and `empty`:
a callback is kept exactly while its send or its status is under way. -/
structure StatusesCorrelate (trace : List (NetworkEvent S Id F)) (network : Network S Id F) : Prop where
  once : ∀ session, (told session trace).Nodup
  genuine : ∀ session index id callback status reply,
    .client session (.calls index (.callDeliveryStatus id callback status) reply) ∈ trace →
      ∃ command data, .client session (.begins (.sendWithDeliveryStatus id command data (some callback))) ∈ trace ∧
        Wrote trace session id command data status
  fresh : ∀ session other task made id, .client session (.begins task) ∈ trace → .client other (.begins made) ∈ trace →
    Client.newId task = some id → Client.newId made = some id → session = other ∧ task = made
  unknown : ∀ (client : Client Id F) id, id ∉ client.deliveryStatusCallbacks →
    (client.perform (.takeStatusCallback id)).1.callback = none ∧
      (∀ other : Id, (client.perform (.takeStatusCallback id)).2.deliveryStatusCallbacks[other]? =
        client.deliveryStatusCallbacks[other]?) ∧
      ∀ status (reply : ClientReply F), reply.callback = none →
        (Client.onDeliveryStatus id status).Returns [(.takeStatusCallback id, reply)] ()
  table : ∀ session id, statusEntry (network.clients session).shared id = weigh (statusToken session id) session network
  empty : ∀ session, network.Quiet session → ∀ id, id ∉ (network.clients session).shared.deliveryStatusCallbacks

theorem statuses_correlate (ran : Runs delivery trace network) : StatusesCorrelate trace network where
  once session := by
    refine List.nodup_iff_count.mpr fun id => ?_
    have once := (status_kept ran session id).once
    have one := (one_maker ran id).1 session
    omega
  genuine session index id callback status reply called := told_reported ran called
  fresh session other task made id begun begunToo newId newIdToo := newId_unique ran begun begunToo newId newIdToo
  unknown client id unknown := by
    obtain ⟨missed, same⟩ := unknown_status client unknown
    refine ⟨missed, same, fun status reply none => ?_⟩
    refine ⟨reply, [], rfl, ?_⟩
    simp [Program.bind, none]
  table session id := (status_kept ran session id).table
  empty session quiet id := by
    have table := (status_kept ran session id).table
    have none : weigh (statusToken session id) session network = 0 := by
      refine quiet.weigh (fun _ => rfl) fun task => ?_
      cases task with
      | message sender message => cases message <;> rfl
      | _ => rfl
    rw [none] at table
    intro there
    rw [statusEntry, if_pos there] at table
    exact absurd table Nat.one_ne_zero

/-- Two clients send, the second is refused, and the results arrive the other way round. -/
theorem both_sends_told : ∃ (trace : List (NetworkEvent (Fin 2) Nat Nat)) (network : _), Runs .anyOrder trace network ∧
    told 0 trace = [7, 8] ∧ told 1 trace = [9] ∧ network.Quiet 0 ∧ StatusesCorrelate trace network := by
  have checked : (play .anyOrder (initial fun _ => none) [
      .clientBegins 0 (.sendWithDeliveryStatus 8 (1, 2) [3] (some 70)), .clientCalls 0 0,
      .clientBegins 1 (.sendWithDeliveryStatus 9 (1, 2) [4] (some 71)), .clientCalls 1 0, .clientCalls 1 0,
        .clientCalls 0 0,
      .clientBegins 0 (.sendWithDeliveryStatus 7 (1, 3) [5] (some 72)), .clientCalls 0 1, .clientCalls 0 1,
      .handles 1 0, .handles 0 1, .daemonCalls 0 false, .daemonCalls 1 true, .daemonCalls 0 true, .handles 0 0,
      .daemonCalls 1 true, .daemonCalls 2 false, .daemonCalls 2 true, .clientReceives 0 0, .clientReceives 1 0,
      .clientCalls 0 2, .clientCalls 1 1, .clientCalls 0 2, .clientReceives 0 0, .clientCalls 0 3, .clientCalls 0 3,
      .clientCalls 1 1]).any
      (fun result : List (NetworkEvent (Fin 2) Nat Nat) × _ =>
        decide (told 0 result.1 = [7, 8] ∧ told 1 result.1 = [9] ∧ result.2.Quiet 0)) = true := by
    decide +kernel
  obtain ⟨trace, network, ran, checked⟩ := exists_run checked
  obtain ⟨first, second, quiet⟩ := of_decide_eq_true checked
  exact ⟨trace, network, ran, first, second, quiet, statuses_correlate ran⟩

end CpuCom.Messaging.Network
