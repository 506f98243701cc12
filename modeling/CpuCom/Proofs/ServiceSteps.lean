import CpuCom.Interaction.Outcome
import CpuCom.Service.ClientManager

/-! What the functions of the service do to its tables: the functions of one client
leave them alone, a client is created and linked, and it is destroyed and unlinked. -/

namespace CpuCom.Service
open Interaction

/-- A process is created where it is unknown, and called where it is known. -/
def NativeCall.Proper (native : NativeClients) : NativeCall → Prop
  | .create pid => pid ∉ native.gClients
  | .setErrorCallback _ _ => True
  | .destroy pid | .send pid _ _ _ | .subscribe pid _ _ _ | .unsubscribe pid _ _ => pid ∈ native.gClients

def NativeCall.Ordinary : NativeCall → Prop
  | .create _ | .destroy _ => False
  | .send _ _ _ _ | .setErrorCallback _ _ | .subscribe _ _ _ _ | .unsubscribe _ _ _ => True

namespace NativeClients

variable {native : NativeClients} {pid : Int}

theorem mem_insert_known {client after : NativeClient} (found : native.gClients[pid]? = some client) (other : Int) :
    other ∈ native.gClients.insert pid after ↔ other ∈ native.gClients := by
  have known : pid ∈ native.gClients := Std.TreeMap.mem_iff_isSome_getElem?.mpr (Option.isSome_of_eq_some found)
  rw [Std.TreeMap.mem_insert, Std.LawfulEqOrd.compare_eq_iff_eq]
  exact or_iff_right_of_imp fun same => same ▸ known

theorem call_unknown {program : Messaging.ClientProgram Nat NativeCallback Unit}
    (unknown : native.gClients[pid]? = none) :
    native.call pid program = .error .nativeCrash := by
  rw [call, unknown]

private theorem processed {result : Except Fault NativeClients}
    (known : ∀ client, native.gClients[pid]? = some client →
      ∃ after, result = .ok { native with gClients := native.gClients.insert pid after })
    (unknown : native.gClients[pid]? = none → result = .error .nativeCrash) :
    Outcome (fun after => pid ∈ native.gClients ∧ ∀ other, other ∈ after.gClients ↔ other ∈ native.gClients)
      (fun fault => fault = .nativeCrash ∧ pid ∉ native.gClients) result := by
  rw [Std.TreeMap.mem_iff_isSome_getElem?]
  cases found : native.gClients[pid]? with
  | none =>
    rw [unknown found]
    exact ⟨rfl, Bool.false_ne_true⟩
  | some client =>
    obtain ⟨after, rfl⟩ := known client found
    exact ⟨rfl, mem_insert_known found⟩

theorem perform_ordinary {call : NativeCall} (ordinary : call.Ordinary) :
    Outcome (fun after => call.Proper native ∧ ∀ other, other ∈ after.gClients ↔ other ∈ native.gClients)
      (fun fault => fault = .nativeCrash ∧ ¬ call.Proper native) (native.perform call) := by
  cases call with
  | create pid => exact ordinary.elim
  | destroy pid => exact ordinary.elim
  | setErrorCallback pid callback => exact ⟨trivial, fun _ => Iff.rfl⟩
  | send pid command subCommand data =>
    exact processed (fun client found => ⟨_, perform_send found⟩) fun unknown => by rw [perform, call_unknown unknown]
  | subscribe pid command subCommand callback =>
    exact processed (fun client found => ⟨_, perform_subscribe found⟩)
      fun unknown => by rw [perform, call_unknown unknown]
  | unsubscribe pid command subCommand =>
    exact processed (fun client found => ⟨_, perform_unsubscribe found⟩)
      fun unknown => by rw [perform, call_unknown unknown]

end NativeClients

namespace ServiceState

variable {B : Type} [LinearOrder B]

def Recorded (service : ServiceState B) : Prop := ∀ entry ∈ service.journal, entry.2.Proper entry.1

/-- Only the callbacks of one client have changed. -/
structure Touches (client : Nat) (before after : ServiceState B) : Prop where
  mClients : after.mClients = before.mClients
  observers : after.mDeathObservers = before.mDeathObservers
  links : after.links = before.links
  dead : after.dead = before.dead
  destroyed : after.destroyed = before.destroyed
  next : after.clients.next = before.clients.next
  pid : ∀ other, after.pid other = before.pid other
  binder : ∀ other, (after.client other).mBinder = (before.client other).mBinder
  others : ∀ other, other ≠ client → after.client other = before.client other
  processes : ∀ pid, pid ∈ after.native.gClients ↔ pid ∈ before.native.gClients
  recorded : before.Recorded → after.Recorded

variable {service before middle after : ServiceState B} {client wrapper : Nat}

theorem Touches.refl : Touches client service service :=
  ⟨rfl, rfl, rfl, rfl, rfl, rfl, fun _ => rfl, fun _ => rfl, fun _ _ => rfl, fun _ => Iff.rfl, id⟩

theorem Touches.trans (first : Touches client before middle) (last : Touches client middle after) :
    Touches client before after :=
  ⟨last.mClients.trans first.mClients, last.observers.trans first.observers, last.links.trans first.links,
    last.dead.trans first.dead, last.destroyed.trans first.destroyed, last.next.trans first.next,
    fun other => (last.pid other).trans (first.pid other), fun other => (last.binder other).trans (first.binder other),
    fun other different => (last.others other different).trans (first.others other different),
    fun pid => (last.processes pid).trans (first.processes pid), last.recorded ∘ first.recorded⟩

theorem touches_wrappers {wrappers errorWrappers : Heap (RemoteCallbackList B)} :
    Touches client service { service with wrappers, errorWrappers } :=
  ⟨rfl, rfl, rfl, rfl, rfl, rfl, fun _ => rfl, fun _ => rfl, fun _ _ => rfl, fun _ => Iff.rfl, id⟩

theorem touches_client {change : Client B → Client B} (pid : ∀ object, (change object).mPid = object.mPid)
    (binder : ∀ object, (change object).mBinder = object.mBinder) :
    Touches client service { service with clients := service.clients.modify client change } :=
  ⟨rfl, rfl, rfl, rfl, rfl, rfl, fun _ => Heap.modify_keeps Client.mPid pid,
    fun _ => Heap.modify_keeps Client.mBinder binder,
    fun _ different => Heap.get_modify_ne different, fun _ => Iff.rfl, id⟩

theorem call_touches {call : NativeCall} (ordinary : call.Ordinary) :
    Outcome (fun after => Touches client service after ∧ after.clients = service.clients)
      (fun fault => fault = .nativeCrash ∧ ¬ call.Proper service.native) (service.call call) := by
  refine (NativeClients.perform_ordinary ordinary).bind fun native ⟨proper, processes⟩ => ?_
  refine ⟨⟨rfl, rfl, rfl, rfl, rfl, rfl, fun _ => rfl, fun _ => rfl, fun _ _ => rfl, processes, fun recorded => ?_⟩,
    rfl⟩
  intro entry member
  rcases List.mem_append.mp member with member | member
  · exact recorded entry member
  · rw [List.mem_singleton.mp member]
    exact proper

/-- The process of the client is unknown to the native part, which crashes. -/
def Lost (service : ServiceState B) (client : Nat) (fault : Fault) : Prop :=
  fault = .nativeCrash ∧ service.pid client ∉ service.native.gClients

variable {command : CpuCommand} {listener : B}

theorem Touches.lost {fault : Fault} (touches : Touches client before after) (lost : Lost after client fault) :
    Lost before client fault :=
  ⟨lost.1, fun known => lost.2 ((touches.pid client).symm ▸ (touches.processes _).mpr known)⟩

theorem alive_of_wrapper {key : Int32 × Int32} (found : service.wrapperOf client key = some wrapper) :
    service.hasAliveRemoteCallbacks client = true := by
  have member : key ∈ (service.client client).mCallbacks :=
    Std.TreeMap.mem_iff_isSome_getElem?.mpr (Option.isSome_of_eq_some found)
  rw [hasAliveRemoteCallbacks, Std.TreeMap.isEmpty_eq_false_of_contains member]
  rfl

theorem not_alive (unused : service.hasAliveRemoteCallbacks client = false) :
    (service.client client).mErrorCallback = none ∧ ∀ key, service.wrapperOf client key = none := by
  refine ⟨Option.isNone_iff_eq_none.mp ?_, fun key => Option.eq_none_iff_forall_ne_some.mpr fun wrapper found => ?_⟩
  · rw [hasAliveRemoteCallbacks, Bool.or_eq_false_iff] at unused
    rw [← Option.not_isSome, unused.2]
    rfl
  · exact Bool.false_ne_true (unused.symm.trans (alive_of_wrapper found))

theorem computeIfAbsent_touches : Touches client service (service.computeIfAbsent client command).2 ∧
    (service.computeIfAbsent client command).2.hasAliveRemoteCallbacks client = true := by
  cases entry : service.wrapperOf client command.key with
  | some wrapper =>
    rw [computeIfAbsent_some entry]
    exact ⟨.refl, alive_of_wrapper entry⟩
  | none =>
    rw [computeIfAbsent_none entry]
    refine ⟨touches_wrappers.trans (touches_client (fun _ => rfl) fun _ => rfl), ?_⟩
    exact alive_of_wrapper (wrapperOf_insert.trans (if_pos rfl))

theorem own_call_touches {call : NativeCall} (ordinary : call.Ordinary)
    (own : service.pid client ∈ service.native.gClients → call.Proper service.native) :
    Outcome (fun after => Touches client service after ∧ after.clients = service.clients) (Lost service client)
      (service.call call) :=
  (call_touches ordinary).fault fun _ lost => ⟨lost.1, fun known => lost.2 (own known)⟩

theorem addListener_touches :
    Outcome (fun after => Touches client service after ∧ after.hasAliveRemoteCallbacks client = true)
    (Lost service client) (service.addListener client command listener) := by
  obtain ⟨grown, alive⟩ := @computeIfAbsent_touches _ _ service client command
  rw [addListener]
  generalize service.computeIfAbsent client command = result at grown alive ⊢
  obtain ⟨wrapper, middle⟩ := result
  dsimp only at grown alive ⊢
  have put : Touches client service (middle.put wrapper listener) := grown.trans touches_wrappers
  split
  · refine ((own_call_touches ?_ ?_).imp ?_).fault fun fault lost => put.lost lost
    · exact trivial
    · exact id
    · intro after touched
      refine ⟨put.trans touched.1, ?_⟩
      rw [hasAliveRemoteCallbacks, ServiceState.client, touched.2]
      exact alive
  · exact ⟨put, alive⟩

theorem removeListener_touches : Outcome (fun result => Touches client service result.2) (Lost service client)
    (service.removeListener client command listener) := by
  rw [removeListener]
  split
  · rename_i wrapper found
    have removed : Touches client service (service.remove wrapper listener) := touches_wrappers
    dsimp only
    split
    · refine ((own_call_touches ?_ ?_).fault fun fault lost => removed.lost lost).bind fun after touched => ?_
      · exact trivial
      · exact id
      · exact removed.trans (touched.1.trans (touches_client (fun _ => rfl) fun _ => rfl))
    · exact removed
  · exact Touches.refl

theorem send_touches :
    Outcome (fun after => Touches client service after ∧ after.clients = service.clients) (Lost service client)
    (service.send client command) := by
  refine own_call_touches ?_ ?_
  · exact trivial
  · exact id

theorem newErrorWrapper_touches {callback : Option B} : Touches client service (service.newErrorWrapper callback).2 ∧
    (callback ≠ none → (service.newErrorWrapper callback).1.isSome = true) := by
  cases callback with
  | none => exact ⟨.refl, fun some => absurd rfl some⟩
  | some listener => exact ⟨touches_wrappers, fun _ => rfl⟩

theorem destroyErrorWrapper_clients {old : Option Nat} :
    (service.destroyErrorWrapper old).clients = service.clients := by
  cases old with
  | none => rfl
  | some wrapper => rfl

theorem destroyErrorWrapper_touches {old : Option Nat} : Touches client service (service.destroyErrorWrapper old) := by
  cases old with
  | none => exact .refl
  | some wrapper => exact touches_wrappers

theorem setErrorCallback_touches {callback : Option B} :
    Outcome (fun after => Touches client service after ∧
      (callback ≠ none → after.hasAliveRemoteCallbacks client = true))
      (Lost service client) (service.setErrorCallback client callback) := by
  obtain ⟨made, some⟩ := @newErrorWrapper_touches _ _ service client callback
  rw [setErrorCallback]
  generalize service.newErrorWrapper callback = result at made some ⊢
  obtain ⟨wrapper, middle⟩ := result
  dsimp only at made some ⊢
  refine ((own_call_touches ?_ ?_).fault fun fault lost => made.lost lost).bind fun after touched => ?_
  · exact trivial
  · exact fun _ => trivial
  · refine ⟨?_, fun given => ?_⟩
    · exact made.trans
        (touched.1.trans (destroyErrorWrapper_touches.trans (touches_client (fun _ => rfl) fun _ => rfl)))
    · rw [hasAliveRemoteCallbacks, ServiceState.client]
      dsimp only
      rw [Heap.get_modify, some given]
      exact Bool.or_true _

theorem getClient_some {pid : Int} (found : service.getClient pid = some client) :
    client ∈ service.mClients ∧ service.pid client = pid := by
  rw [getClient] at found
  have same := List.find?_some found
  exact ⟨List.mem_of_find?_eq_some found, of_decide_eq_true same⟩

theorem getClient_none {pid : Int} (missing : service.getClient pid = none) :
    ∀ client ∈ service.mClients, service.pid client ≠ pid := by
  intro client member same
  exact List.find?_eq_none.mp missing client member (decide_eq_true same)

/-- A client has gone from all tables, with what was linked for it. -/
structure Destroys (client : Nat) (binder : B) (recipient : ClientDeathObserver) (before after : ServiceState B) :
    Prop where
  bound : (before.client client).mBinder = some binder
  observed : before.mDeathObservers[binder]? = some recipient
  mClients : after.mClients = before.mClients.erase client
  clients : after.clients = before.clients
  observers : after.mDeathObservers = before.mDeathObservers.erase binder
  links : after.links = before.links.erase (binder, recipient)
  dead : after.dead = before.dead
  destroyed : after.destroyed = before.destroyed ++ [client]
  processes : ∀ pid, pid ∈ after.native.gClients ↔ pid ∈ before.native.gClients ∧ pid ≠ before.pid client
  recorded : before.Recorded → after.Recorded

structure Healthy (service : ServiceState B) (client : Nat) (binder : B) (recipient : ClientDeathObserver) : Prop where
  bound : (service.client client).mBinder = some binder
  observed : service.mDeathObservers[binder]? = some recipient
  linked : (binder, recipient) ∈ service.links ∨ binder ∈ service.dead
  process : service.pid client ∈ service.native.gClients

theorem unlinkToDeath_links {binder : B} {recipient : ClientDeathObserver} :
    Outcome (fun after => after = { service with links := service.links.erase (binder, recipient) })
      (fun fault => fault = .notLinked ∧ (binder, recipient) ∉ service.links ∧ binder ∉ service.dead)
      (service.unlinkToDeath binder recipient) := by
  rw [unlinkToDeath]
  split
  · rfl
  · rename_i unlinked
    split
    · rename_i alive
      exact ⟨rfl, unlinked, isBinderAlive_iff.mp alive⟩
    · rw [List.erase_of_not_mem unlinked]
      rfl

theorem destroy_leaves : Outcome (fun after => ∃ native, after = { service with
        destroyed := service.destroyed ++ [client], native
        journal := service.journal ++ [(service.native, .destroy (service.pid client))] } ∧
      service.pid client ∈ service.native.gClients ∧
      ∀ pid, pid ∈ native.gClients ↔ pid ∈ service.native.gClients ∧ pid ≠ service.pid client)
    (Lost service client) (service.destroy client) := by
  rw [destroy, call, NativeClients.perform]
  dsimp only
  split
  · rename_i known
    refine ⟨_, rfl, known, fun pid => ?_⟩
    rw [Std.TreeMap.mem_erase, ne_eq, Std.LawfulEqOrd.compare_eq_iff_eq, and_comm, ne_comm]
  · rename_i unknown
    exact ⟨rfl, unknown⟩

theorem destroyClient_destroys :
    Outcome (fun after => ∃ binder recipient, Destroys client binder recipient service after)
    (fun fault => fault ≠ .nullClient ∧ ∀ binder recipient, ¬ Healthy service client binder recipient)
    (service.destroyClient (some client)) := by
  rw [destroyClient]
  cases bound : (service.client client).mBinder with
  | none =>
    exact ⟨by simp, fun binder recipient healthy =>
      absurd (healthy.bound.symm.trans bound) (Option.some_ne_none binder)⟩
  | some binder =>
    dsimp only
    have same : ∀ other recipient, Healthy service client other recipient → other = binder :=
      fun other recipient healthy => Option.some.inj (healthy.bound.symm.trans bound)
    cases observed : service.mDeathObservers[binder]? with
    | none =>
      refine ⟨by simp, fun other recipient healthy => ?_⟩
      have seen := healthy.observed
      rw [same other recipient healthy, observed] at seen
      cases seen
    | some recipient =>
      have mine : ∀ other another, Healthy service client other another → other = binder ∧ another = recipient := by
        intro other another healthy
        obtain rfl := same other another healthy
        exact ⟨rfl, Option.some.inj (healthy.observed.symm.trans observed)⟩
      refine Outcome.bind (unlinkToDeath_links.fault ?_) fun unlinked leaves => ?_
      · rintro fault ⟨rfl, absent, alive⟩
        refine ⟨by simp, fun other another healthy => ?_⟩
        obtain ⟨rfl, rfl⟩ := mine other another healthy
        exact healthy.linked.elim absent alive
      · subst leaves
        refine Outcome.bind (destroy_leaves.fault ?_) fun after leaves => ?_
        · rintro fault ⟨rfl, unknown⟩
          exact ⟨by simp, fun other another healthy => unknown healthy.process⟩
        · obtain ⟨native, rfl, known, processes⟩ := leaves
          refine ⟨binder, recipient, bound, observed, rfl, rfl, rfl, rfl, rfl, rfl, processes, fun recorded => ?_⟩
          intro entry member
          rcases List.mem_append.mp member with member | member
          · exact recorded entry member
          · rw [List.mem_singleton.mp member]
            exact known

/-- A client has come into all tables, except that a dead binder cannot be linked. -/
structure Creates (pid : Int) (binder : B) (before after : ServiceState B) : Prop where
  mClients : after.mClients = before.mClients ++ [before.clients.next]
  newest : after.client before.clients.next = ⟨pid, some binder, ∅, none⟩
  older : ∀ other, other ≠ before.clients.next → after.client other = before.client other
  next : after.clients.next = before.clients.next + 1
  dead : after.dead = before.dead
  destroyed : after.destroyed = before.destroyed
  processes : ∀ other, other ∈ after.native.gClients ↔ other = pid ∨ other ∈ before.native.gClients
  recorded : pid ∉ before.native.gClients → before.Recorded → after.Recorded

theorem Creates.older_pid {pid : Int} {binder : B} (creates : Creates pid binder before after)
    (allocated : client < before.clients.next) :
    after.pid client = before.pid client := congrArg Client.mPid (creates.older client (Nat.ne_of_lt allocated))

theorem Creates.newest_pid {pid : Int} {binder : B} (creates : Creates pid binder before after) :
    after.pid before.clients.next = pid := congrArg Client.mPid creates.newest

theorem Creates.mem {pid : Int} {binder : B} (creates : Creates pid binder before after) :
    client ∈ after.mClients ↔ client ∈ before.mClients ∨ client = before.clients.next := by
  rw [creates.mClients, List.mem_append, List.mem_singleton]

theorem Creates.once {pid : Int} {binder : B} (creates : Creates pid binder before after)
    (allocated : ∀ client ∈ before.mClients, client < before.clients.next)
    (new : ∀ client ∈ before.mClients, before.pid client ≠ pid) (once : (before.mClients.map before.pid).Nodup) :
    (after.mClients.map after.pid).Nodup := by
  have same : before.mClients.map after.pid = before.mClients.map before.pid :=
    List.map_congr_left fun other there => creates.older_pid (allocated other there)
  rw [creates.mClients, List.map_append, same, List.map_singleton, creates.newest_pid]
  refine once.append (List.nodup_singleton pid) ?_
  rw [List.disjoint_singleton]
  intro known
  obtain ⟨other, there, mine⟩ := List.mem_map.mp known
  exact new other there mine

theorem Destroys.pid {binder : B} {recipient : ClientDeathObserver}
    (destroys : Destroys client binder recipient before after) :
    after.pid = before.pid := by
  funext other
  rw [ServiceState.pid, ServiceState.client, destroys.clients]
  rfl

theorem Destroys.mem {binder : B} {recipient : ClientDeathObserver} {other : Nat}
    (destroys : Destroys client binder recipient before after)
    (once : (before.mClients.map before.pid).Nodup) :
    other ∈ after.mClients ↔ other ≠ client ∧ other ∈ before.mClients := by
  rw [destroys.mClients]
  exact once.of_map.mem_erase_iff

theorem Destroys.once {binder : B} {recipient : ClientDeathObserver}
    (destroys : Destroys client binder recipient before after)
    (once : (before.mClients.map before.pid).Nodup) : (after.mClients.map after.pid).Nodup := by
  rw [destroys.mClients, destroys.pid]
  exact once.sublist (List.erase_sublist.map _)

theorem newClient_creates {pid : Int} {binder : B} {links : List (B × ClientDeathObserver)}
    {mDeathObservers : Std.TreeMap B ClientDeathObserver} :
    Creates pid binder service { (service.newClient pid (some binder)).2 with
      mClients := service.mClients ++ [service.clients.next], links, mDeathObservers } := by
  refine ⟨rfl, Heap.get_alloc, fun other older => Heap.get_alloc_ne older, rfl, rfl, rfl,
    fun other => NativeClients.mem_create, ?_⟩
  intro unknown recorded entry member
  rcases List.mem_append.mp member with member | member
  · exact recorded entry member
  · rw [List.mem_singleton.mp member]
    exact unknown

theorem createClient_alive {pid : Int} {binder : B} {recipient : ClientDeathObserver} (alive : binder ∉ service.dead) :
    ∃ after, service.createClient pid binder recipient = (some service.clients.next, after) ∧
      Creates pid binder service after ∧
      after.links = service.links ++ [(binder, recipient)] ∧
      after.mDeathObservers = service.mDeathObservers.insert binder recipient := by
  refine ⟨_, ?_, newClient_creates, rfl, rfl⟩
  rw [createClient]
  exact if_pos (isBinderAlive_iff.mpr alive)

theorem createClient_dead {pid : Int} {binder : B} {recipient : ClientDeathObserver} (dead : binder ∈ service.dead) :
    ∃ after, service.createClient pid binder recipient = (none, after) ∧ Creates pid binder service after ∧
      after.links = service.links ∧ after.mDeathObservers = service.mDeathObservers := by
  refine ⟨_, ?_, newClient_creates, rfl, rfl⟩
  rw [createClient]
  exact if_neg fun alive => isBinderAlive_iff.mp alive dead

theorem createClient_creates {pid : Int} {binder : B} {recipient : ClientDeathObserver} :
    Creates pid binder service (service.createClient pid binder recipient).2 := by
  by_cases dead : binder ∈ service.dead
  · obtain ⟨after, made, creates, -⟩ := @createClient_dead _ _ _ pid _ recipient dead
    exact made ▸ creates
  · obtain ⟨after, made, creates, -⟩ := @createClient_alive _ _ _ pid _ recipient dead
    exact made ▸ creates

end ServiceState
end CpuCom.Service
