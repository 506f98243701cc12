import CpuCom.Proofs.ServiceSteps
import CpuCom.Service.Executor

/-! A client may go because its last callback is removed or because its process dies.
Whoever removes the last callback must not come between the death and its task. -/

namespace CpuCom.Service.Executor
open Interaction ServiceState

variable {B : Type} [LinearOrder B]

/-- The deaths of a process that nobody has cared about yet. -/
def underWay (executor : Executor B) (pid : Int) : Nat :=
  executor.notices.count ⟨pid⟩ + executor.queue.count (.destroyClient pid)

def removesLast (service : ServiceState B) (client : Nat) (command : CpuCommand) (listener : B) : Bool :=
  (service.client client).mErrorCallback.isNone && (service.client client).mCallbacks.toList.all fun entry =>
    decide (entry.1 = command.key) && (service.wrapper entry.2).callbacks.all fun other => decide (other = listener)

def leavesUnused (service : ServiceState B) : Task B → Option Nat
  | .unsubscribe pid command listener =>
      (service.getClient pid).filter fun client => removesLast service client command listener
  | .resetErrorCallback pid => (service.getClient pid).filter fun client => (service.client client).mCallbacks.isEmpty
  | .subscribe _ _ _ | .setErrorCallback _ _ | .sendCommand _ _ | .destroyClient _ => none

/-- The recipient that is kept for the binder of the client is the client's own. -/
def observesItself (service : ServiceState B) (client : Nat) : Bool :=
  ((service.client client).mBinder.bind fun binder => service.mDeathObservers[binder]?).all fun recipient =>
    decide (recipient = ⟨service.pid client⟩)

/-- A task leaves a client without a callback only while no death of its process is
under way, and no other process has passed its binder. -/
def Undisturbed (executor : Executor B) : ExecutorEvent B → Prop
  | .runs => ∀ task ∈ executor.queue.head?, ∀ client ∈ leavesUnused executor.service task,
      executor.underWay (executor.service.pid client) = 0 ∧ observesItself executor.service client = true
  | .calls _ | .dies _ | .binderDied _ => True

instance (executor : Executor B) : DecidablePred executor.Undisturbed
  | .runs => inferInstanceAs
      (Decidable (∀ task ∈ executor.queue.head?, ∀ client ∈ leavesUnused executor.service task, _ ∧ _))
  | .calls _ | .dies _ | .binderDied _ => .isTrue trivial

/-- No task has destroyed null, and no client was destroyed twice. -/
def DestroysOnce : Except Fault (Executor B) → Prop :=
  Outcome (fun executor => executor.service.destroyed.Nodup) (fun fault => fault ≠ .nullClient)

instance : DecidablePred (@DestroysOnce B _) := fun result => inferInstanceAs (Decidable (Outcome _ _ result))

theorem null_destroyed : ¬ ∀ events : List (ExecutorEvent Nat), DestroysOnce (events.foldlM step initial) := by
  intro once
  have crashed :
    ¬ DestroysOnce ([.calls (.subscribeCB 7 ⟨4, 0, none⟩ 7), .runs, .calls (.unsubscribeCB 7 ⟨4, 0, none⟩ 7), .dies 7,
      .binderDied ⟨7⟩, .runs, .runs].foldlM step (initial : Executor Nat)) := by
    decide +kernel
  exact crashed (once _)

/-- Links, notices and tasks that stand for the death of a process. -/
def tokens (executor : Executor B) (pid : Int) : Nat :=
  executor.service.links.countP (fun link => link.2 = ⟨pid⟩) + executor.underWay pid

/-- There is at most one token of a process, and it has a client as long as there is one. -/
structure Orderly (executor : Executor B) : Prop where
  once : (executor.service.mClients.map executor.service.pid).Nodup
  listed : ∀ client ∈ executor.service.mClients, client < executor.service.clients.next ∧
    client ∉ executor.service.destroyed
  gone : ∀ client ∈ executor.service.destroyed, client < executor.service.clients.next
  destroyed : executor.service.destroyed.Nodup
  linked : ∀ link ∈ executor.service.links, ∃ client ∈ executor.service.mClients,
    executor.service.pid client = link.2.mClientPid ∧ (executor.service.client client).mBinder = some link.1
  single : ∀ pid, executor.tokens pid ≤ 1
  live : ∀ pid, 1 ≤ executor.underWay pid → ∃ client ∈ executor.service.mClients, executor.service.pid client = pid

variable {service after : ServiceState B} {queue rest : List (Task B)} {notices : List ClientDeathObserver}
  {client : Nat} {task : Task B} {binder : B} {pid : Int} {executor : Executor B}

theorem underWay_mk : underWay ⟨service, queue, notices⟩ pid = notices.count ⟨pid⟩ + queue.count (.destroyClient pid) :=
  rfl

theorem tokens_mk : tokens ⟨service, queue, notices⟩ pid =
    service.links.countP (fun link => link.2 = ⟨pid⟩) + underWay ⟨service, queue, notices⟩ pid := rfl

theorem initial_orderly : Orderly (initial : Executor B) := by
  refine ⟨.nil, ?_, ?_, .nil, ?_, fun pid => Nat.zero_le 1, fun pid some => absurd some (Nat.not_succ_le_zero 0)⟩
  all_goals
    intro _ member
    exact absurd member List.not_mem_nil

theorem Orderly.touched (orderly : Orderly ⟨service, queue, notices⟩) (touches : Touches client service after) :
    Orderly ⟨after, queue, notices⟩ := by
  have pids : after.pid = service.pid := funext touches.pid
  obtain ⟨once, listed, gone, destroyed, linked, single, live⟩ := orderly
  refine ⟨?_, ?_, ?_, ?_, ?_, ?_, ?_⟩
  · rw [touches.mClients, pids]
    exact once
  · rw [touches.mClients, touches.next, touches.destroyed]
    exact listed
  · rw [touches.next, touches.destroyed]
    exact gone
  · rw [touches.destroyed]
    exact destroyed
  · rw [touches.links, touches.mClients, pids]
    intro link member
    obtain ⟨other, there, same, bound⟩ := linked link member
    exact ⟨other, there, same, (touches.binder other).trans bound⟩
  · intro pid
    rw [tokens_mk, touches.links]
    exact single pid
  · rw [touches.mClients, pids]
    exact live

theorem Orderly.no_link (orderly : Orderly ⟨service, queue, notices⟩)
    (new : ∀ client ∈ service.mClients, service.pid client ≠ pid) :
    tokens ⟨service, queue, notices⟩ pid = 0 := by
  have unlinked : service.links.countP (fun link => link.2 = ⟨pid⟩) = 0 := by
    refine List.countP_eq_zero.mpr fun link member same => ?_
    obtain ⟨client, there, mine, -⟩ := orderly.linked link member
    exact new client there (mine.trans (congrArg ClientDeathObserver.mClientPid (of_decide_eq_true same)))
  have unheard : ¬ 1 ≤ underWay ⟨service, queue, notices⟩ pid := by
    intro some
    obtain ⟨client, there, mine⟩ := orderly.live pid some
    exact new client there mine
  rw [tokens_mk, unlinked]
  omega

theorem Orderly.created (orderly : Orderly ⟨service, queue, notices⟩) (creates : Creates pid binder service after)
    (new : ∀ client ∈ service.mClients, service.pid client ≠ pid)
    (links : after.links = service.links ++ [(binder, ⟨pid⟩)] ∨ after.links = service.links) :
    Orderly ⟨after, queue, notices⟩ := by
  have none := orderly.no_link new
  obtain ⟨once, listed, gone, destroyed, linked, single, live⟩ := orderly
  have allocated (other : Nat) (there : other ∈ service.mClients) : other < service.clients.next :=
    (listed other there).1
  refine ⟨creates.once allocated new once, ?_, ?_, ?_, ?_, ?_, ?_⟩
  · intro other here
    rw [creates.next, creates.destroyed]
    rcases creates.mem.mp here with there | rfl
    · exact ⟨Nat.lt_succ_of_lt (listed other there).1, (listed other there).2⟩
    · exact ⟨Nat.lt_succ_self _, fun dead => Nat.lt_irrefl _ (gone _ dead)⟩
  · intro other dead
    rw [creates.destroyed] at dead
    rw [creates.next]
    exact Nat.lt_succ_of_lt (gone other dead)
  · rw [creates.destroyed]
    exact destroyed
  · intro link here
    have cases : link ∈ service.links ∨ link = (binder, ⟨pid⟩) := by
      rcases links with grown | same
      · rw [grown, List.mem_append, List.mem_singleton] at here
        exact here
      · exact .inl (same ▸ here)
    rcases cases with there | rfl
    · obtain ⟨other, member, same, bound⟩ := linked link there
      refine ⟨other, creates.mem.mpr (.inl member), (creates.older_pid (allocated other member)).trans same, ?_⟩
      rw [creates.older other (Nat.ne_of_lt (allocated other member))]
      exact bound
    · refine ⟨service.clients.next, creates.mem.mpr (.inr rfl), creates.newest_pid, ?_⟩
      rw [creates.newest]
  · intro process
    have before := single process
    rw [tokens_mk, underWay_mk] at before none ⊢
    rcases links with grown | same
    · rw [grown, List.countP_append, List.countP_singleton]
      by_cases mine : process = pid
      · rw [mine, if_pos (decide_eq_true rfl)]
        omega
      · rw [if_neg fun same => mine (congrArg ClientDeathObserver.mClientPid (of_decide_eq_true same)).symm]
        exact before
    · rw [same]
      exact before
  · intro process some
    obtain ⟨other, there, mine⟩ := live process some
    exact ⟨other, creates.mem.mpr (.inl there), (creates.older_pid (allocated other there)).trans mine⟩

theorem underWay_fewer (fewer : rest.Sublist queue) :
    underWay ⟨service, rest, notices⟩ pid ≤ underWay ⟨service, queue, notices⟩ pid :=
  Nat.add_le_add_left (fewer.count_le _) _

theorem Orderly.fewer (orderly : Orderly ⟨service, queue, notices⟩) (fewer : rest.Sublist queue) :
    Orderly ⟨service, rest, notices⟩ :=
  { orderly with
    single := fun pid => (Nat.add_le_add_left (underWay_fewer fewer) _).trans (orderly.single pid)
    live := fun pid some => orderly.live pid (some.trans (underWay_fewer fewer)) }

theorem Orderly.destroyed_free {recipient : ClientDeathObserver} (orderly : Orderly ⟨service, queue, notices⟩)
    (destroys : Destroys client binder recipient service after) (member : client ∈ service.mClients)
    (free : underWay ⟨service, queue, notices⟩ (service.pid client) = 0)
    (unlinked : ∀ link ∈ after.links, link.2 ≠ ⟨service.pid client⟩) : Orderly ⟨after, queue, notices⟩ := by
  obtain ⟨once, listed, gone, destroyed, linked, single, live⟩ := orderly
  refine ⟨destroys.once once, ?_, ?_, ?_, ?_, ?_, ?_⟩
  · intro other here
    obtain ⟨another, there⟩ := (destroys.mem once).mp here
    rw [destroys.clients, destroys.destroyed, List.mem_append, List.mem_singleton]
    refine ⟨(listed other there).1, ?_⟩
    rintro (dead | same)
    · exact (listed other there).2 dead
    · exact another same
  · intro other dead
    rw [destroys.destroyed, List.mem_append, List.mem_singleton] at dead
    rw [destroys.clients]
    rcases dead with dead | rfl
    · exact gone other dead
    · exact (listed other member).1
  · rw [destroys.destroyed]
    refine destroyed.append (List.nodup_singleton client) ?_
    rw [List.disjoint_singleton]
    exact (listed client member).2
  · intro link here
    have there : link ∈ service.links := by
      rw [destroys.links] at here
      exact List.mem_of_mem_erase here
    obtain ⟨other, known, same, bound⟩ := linked link there
    refine ⟨other, (destroys.mem once).mpr ⟨?_, known⟩, ?_, ?_⟩
    · rintro rfl
      exact unlinked link here (congrArg ClientDeathObserver.mk same).symm
    · rw [destroys.pid]
      exact same
    · rw [ServiceState.client, destroys.clients]
      exact bound
  · intro process
    have fewer : after.links.countP (fun link => link.2 = ⟨process⟩) ≤
        service.links.countP fun link => link.2 = ⟨process⟩ := by
      rw [destroys.links]
      exact List.erase_sublist.countP_le
    exact (Nat.add_le_add_right fewer _).trans (single process)
  · intro process some
    obtain ⟨other, there, mine⟩ := live process some
    refine ⟨other, (destroys.mem once).mpr ⟨?_, there⟩, ?_⟩
    · rintro rfl
      rw [mine] at free
      exact absurd (some.trans_eq free) Nat.one_pos.not_ge
    · rw [destroys.pid]
      exact mine

theorem Orderly.unlinked (orderly : Orderly ⟨service, queue, notices⟩)
    (destroys : Destroys client binder ⟨service.pid client⟩ service after) (member : client ∈ service.mClients) :
    ∀ link ∈ after.links, link.2 ≠ ⟨service.pid client⟩ := by
  intro link here same
  rw [destroys.links] at here
  obtain ⟨other, there, mine, bound⟩ := orderly.linked link (List.mem_of_mem_erase here)
  have itself : other = client :=
    List.inj_on_of_nodup_map orderly.once there member (mine.trans (congrArg ClientDeathObserver.mClientPid same))
  subst itself
  have whole : link = (binder, ⟨service.pid other⟩) := Prod.ext (Option.some.inj (bound.symm.trans destroys.bound)) same
  subst whole
  have two : 1 < service.links.countP fun link => link.2 = ⟨service.pid other⟩ := by
    have one : 0 <
        (service.links.erase (binder, ⟨service.pid other⟩)).countP fun link => link.2 = ⟨service.pid other⟩ :=
      List.countP_pos_iff.mpr ⟨_, here, decide_eq_true rfl⟩
    rw [List.countP_erase, if_pos ⟨List.mem_of_mem_erase here, decide_eq_true rfl⟩] at one
    omega
  exact absurd ((Nat.le_add_right _ _).trans (orderly.single _)) (Nat.not_le_of_lt two)

/-- Who keeps a callback after a removal has not removed its last one. -/
theorem removeListener_last {command : CpuCommand} {listener : B} :
    Outcome (fun result => result.2.hasAliveRemoteCallbacks client = false →
      removesLast service client command listener = true)
      (fun _ => True) (service.removeListener client command listener) := by
  have last (callback : (service.client client).mErrorCallback = none)
      (only : ∀ key wrapper, service.wrapperOf client key = some wrapper →
        key = command.key ∧ ∀ other ∈ (service.wrapper wrapper).callbacks, other = listener) :
      removesLast service client command listener = true := by
    rw [removesLast, callback]
    refine List.all_eq_true.mpr fun entry member => ?_
    obtain ⟨key, others⟩ := only entry.1 entry.2 (Std.TreeMap.mem_toList_iff_getElem?_eq_some.mp member)
    refine Bool.and_eq_true_iff.mpr ⟨decide_eq_true key, List.all_eq_true.mpr fun other there => ?_⟩
    exact decide_eq_true (others other there)
  rw [removeListener]
  split
  · rename_i wrapper found
    dsimp only
    split
    · rename_i emptied
      refine ((@call_touches _ _ _ client _ ?_).fault fun _ _ => trivial).bind fun after touched unused => ?_
      · exact trivial
      obtain ⟨callback, unkept⟩ := not_alive unused
      have kept : (service.client client).mErrorCallback = none := by
        rw [← callback, ServiceState.client, ServiceState.client, changeCallbacks]
        dsimp only
        rw [Heap.get_modify, touched.2]
        rfl
      refine last kept fun key other kept => ?_
      have erased := unkept key
      rw [wrapperOf_erase, wrapperOf, ServiceState.client, touched.2] at erased
      by_cases same : command.key = key
      · subst same
        obtain rfl := Option.some.inj (found.symm.trans kept)
        refine ⟨rfl, fun other there => Decidable.byContradiction fun different => ?_⟩
        have stays : other ∈ ((service.remove wrapper listener).wrapper wrapper).callbacks := by
          rw [remove, changeWrapper, ServiceState.wrapper]
          dsimp only
          rw [Heap.get_modify]
          exact RemoteCallbackList.mem_unregister.mpr ⟨there, different⟩
        rw [List.length_eq_zero_iff.mp (of_decide_eq_true emptied)] at stays
        exact List.not_mem_nil stays
      · rw [if_neg same] at erased
        exact absurd (kept.symm.trans erased) (Option.some_ne_none _)
    · intro unused
      refine absurd (alive_of_wrapper (?_ : wrapperOf _ client command.key = some wrapper))
        (by rw [unused]; exact Bool.false_ne_true)
      exact found
  · rename_i missing
    intro unused
    obtain ⟨callback, unkept⟩ := not_alive unused
    refine last callback fun key wrapper found => ?_
    exact absurd (found.symm.trans (unkept key)) (Option.some_ne_none _)

theorem setErrorCallback_last :
    Outcome (fun after => after.hasAliveRemoteCallbacks client = false →
      (service.client client).mCallbacks.isEmpty = true)
      (fun _ => True) (service.setErrorCallback client none) := by
  rw [setErrorCallback]
  refine ((@call_touches _ _ _ client _ ?_).fault fun _ _ => trivial).bind fun after touched unused => ?_
  · exact trivial
  have same : (after.destroyErrorWrapper (after.client client).mErrorCallback).clients = service.clients := by
    rw [destroyErrorWrapper_clients]
    exact touched.2
  rw [hasAliveRemoteCallbacks, Bool.or_eq_false_iff, ServiceState.client] at unused
  dsimp only at unused
  rw [same, Heap.get_modify, Bool.not_eq_false'] at unused
  exact unused.1

/-- A task may destroy a client without callbacks if nobody else does. -/
theorem destroyUnused_orderly (orderly : Orderly ⟨service, queue, notices⟩) (member : client ∈ service.mClients)
    (undisturbed : service.hasAliveRemoteCallbacks client = false →
      underWay ⟨service, queue, notices⟩ (service.pid client) = 0 ∧ observesItself service client = true) :
    Outcome (fun after => Orderly ⟨after, queue, notices⟩) (fun fault => fault ≠ .nullClient)
      (service.destroyUnused client) := by
  rw [destroyUnused]
  cases alive : service.hasAliveRemoteCallbacks client with
  | true => exact orderly
  | false =>
    obtain ⟨free, itself⟩ := undisturbed alive
    refine (destroyClient_destroys.imp ?_).fault fun fault sick => sick.1
    rintro after ⟨binder, recipient, destroys⟩
    rw [observesItself, destroys.bound, Option.bind_some, destroys.observed] at itself
    obtain rfl : recipient = ⟨service.pid client⟩ := of_decide_eq_true itself
    exact orderly.destroyed_free destroys member free (orderly.unlinked destroys member)

/-- What a task does after it has taken callbacks away from a client. -/
theorem Orderly.emptied (orderly : Orderly ⟨service, queue, notices⟩) (touches : Touches client service after)
    (member : client ∈ service.mClients)
    (undisturbed : after.hasAliveRemoteCallbacks client = false →
      underWay ⟨service, queue, notices⟩ (service.pid client) = 0 ∧ observesItself service client = true) :
    Outcome (fun after => Orderly ⟨after, queue, notices⟩) (fun fault => fault ≠ .nullClient)
      (after.destroyUnused client) := by
  refine destroyUnused_orderly (orderly.touched touches) (touches.mClients ▸ member) fun unused => ?_
  have same : observesItself after client = observesItself service client := by
    rw [observesItself, touches.binder, touches.observers, touches.pid]
    rfl
  rw [same, touches.pid]
  exact undisturbed unused

theorem destroyClient_orderly (orderly : Orderly ⟨service, .destroyClient pid :: queue, notices⟩) :
    Outcome (fun after => Orderly ⟨after, queue, notices⟩) (fun fault => fault ≠ .nullClient)
      (service.destroyClient (service.getClient pid)) := by
  have single := orderly.single pid
  rw [tokens_mk, underWay_mk, List.count_cons_self] at single
  cases found : service.getClient pid with
  | none =>
    obtain ⟨client, there, mine⟩ := orderly.live pid (by rw [underWay_mk, List.count_cons_self]; omega)
    exact absurd mine (getClient_none found client there)
  | some client =>
    obtain ⟨member, mine⟩ := getClient_some found
    subst mine
    refine (destroyClient_destroys.imp ?_).fault fun fault sick => sick.1
    rintro after ⟨binder, recipient, destroys⟩
    refine (orderly.fewer (List.sublist_cons_self ..)).destroyed_free destroys member ?_ fun link here same => ?_
    · rw [underWay_mk]
      omega
    · rw [destroys.links] at here
      have unlinked : service.links.countP (fun link => link.2 = ⟨service.pid client⟩) = 0 := by omega
      exact List.countP_eq_zero.mp unlinked link (List.mem_of_mem_erase here) (decide_eq_true same)

theorem getOrCreateClient_orderly (orderly : Orderly ⟨service, queue, notices⟩) :
    Orderly ⟨(service.getOrCreateClient pid binder).2, queue, notices⟩ := by
  rw [getOrCreateClient]
  cases found : service.getClient pid with
  | some client => exact orderly
  | none =>
    by_cases dead : binder ∈ service.dead
    · obtain ⟨after, made, creates, links, -⟩ := @createClient_dead _ _ _ pid _ ⟨pid⟩ dead
      dsimp only
      rw [made]
      exact orderly.created creates (getClient_none found) (.inr links)
    · obtain ⟨after, made, creates, links, -⟩ := @createClient_alive _ _ _ pid _ ⟨pid⟩ dead
      dsimp only
      rw [made]
      exact orderly.created creates (getClient_none found) (.inl links)

theorem run_orderly (orderly : Orderly ⟨service, task :: queue, notices⟩)
    (undisturbed : Undisturbed ⟨service, task :: queue, notices⟩ .runs) :
    Outcome (fun after => Orderly ⟨after, queue, notices⟩) (fun fault => fault ≠ .nullClient) (task.run service) := by
  have others : Orderly ⟨service, queue, notices⟩ := orderly.fewer (List.sublist_cons_self ..)
  have disturbs (client : Nat) (left : leavesUnused service task = some client) :
      underWay ⟨service, queue, notices⟩ (service.pid client) = 0 ∧ observesItself service client = true := by
    obtain ⟨free, itself⟩ := undisturbed task rfl client left
    exact ⟨Nat.eq_zero_of_le_zero ((underWay_fewer (List.sublist_cons_self ..)).trans_eq free), itself⟩
  have lost {service : ServiceState B} {client : Nat} (fault : Fault) (lost : Lost service client fault) :
      fault ≠ .nullClient := by
    rw [lost.1]
    simp
  cases task with
  | subscribe pid command listener =>
    rw [Task.run]
    split
    · have made := @getOrCreateClient_orderly _ _ _ _ _ listener pid others
      generalize service.getOrCreateClient pid listener = result at made ⊢
      obtain ⟨found, middle⟩ := result
      cases found with
      | none => exact made
      | some client => exact (addListener_touches.imp fun after touched => made.touched touched.1).fault lost
    · exact others
  | unsubscribe pid command listener =>
    rw [Task.run]
    cases found : service.getClient pid with
    | none => exact others
    | some client =>
      refine ((removeListener_touches.and removeListener_last).fault lost).bind fun result removed => ?_
      obtain ⟨touches, last⟩ := removed
      refine others.emptied touches (getClient_some found).1 fun unused => disturbs client ?_
      rw [leavesUnused, found]
      exact Option.filter_some_pos (last unused)
  | setErrorCallback pid errorCallback =>
    rw [Task.run]
    have made := @getOrCreateClient_orderly _ _ _ _ _ errorCallback pid others
    generalize service.getOrCreateClient pid errorCallback = result at made ⊢
    obtain ⟨found, middle⟩ := result
    cases found with
    | none => exact made
    | some client => exact (setErrorCallback_touches.imp fun after touched => made.touched touched.1).fault lost
  | resetErrorCallback pid =>
    rw [Task.run]
    cases found : service.getClient pid with
    | none => exact others
    | some client =>
      refine ((setErrorCallback_touches.and setErrorCallback_last).fault lost).bind fun after reset => ?_
      obtain ⟨⟨touches, -⟩, last⟩ := reset
      refine others.emptied touches (getClient_some found).1 fun unused => disturbs client ?_
      rw [leavesUnused, found]
      exact Option.filter_some_pos (last unused)
  | sendCommand pid command =>
    rw [Task.run]
    split
    · exact (send_touches.imp fun after touched => others.touched touched.1).fault lost
    · exact others
  | destroyClient pid => exact destroyClient_orderly orderly

theorem Orderly.dies (orderly : Orderly ⟨service, queue, notices⟩) :
    Orderly ⟨service.dies binder, queue, notices ++ (service.links.filter (·.1 = binder)).map Prod.snd⟩ := by
  obtain ⟨once, listed, gone, destroyed, linked, single, live⟩ := orderly
  have told (pid : Int) : ((service.links.filter (·.1 = binder)).map Prod.snd).count ⟨pid⟩ =
      (service.links.filter (·.1 = binder)).countP fun link => link.2 = ⟨pid⟩ := by
    rw [List.count, List.countP_map]
    rfl
  refine ⟨once, listed, gone, destroyed, fun link member => ?_, fun pid => ?_, fun pid some => ?_⟩
  · exact linked link (List.mem_of_mem_filter member)
  · have before := single pid
    have parts := List.countP_eq_countP_filter_add service.links (fun link => decide (link.2 = ⟨pid⟩))
      fun link => decide (link.1 = binder)
    rw [tokens_mk, underWay_mk] at before ⊢
    rw [List.count_append, told]
    simp only [ServiceState.dies, ne_eq, decide_not] at parts ⊢
    omega
  · rw [underWay_mk, List.count_append, told] at some
    by_cases heard : 1 ≤ notices.count ⟨pid⟩ + queue.count (.destroyClient pid)
    · exact live pid heard
    · obtain ⟨link, member, mine⟩ :=
        List.countP_pos_iff.mp (by omega : 0 < (service.links.filter (·.1 = binder)).countP fun link => link.2 = ⟨pid⟩)
      obtain ⟨client, there, same, -⟩ := linked link (List.mem_of_mem_filter member)
      exact ⟨client, there, same.trans (congrArg ClientDeathObserver.mClientPid (of_decide_eq_true mine))⟩

theorem Orderly.moved {others : List ClientDeathObserver} (orderly : Orderly ⟨service, queue, notices⟩)
    (same : ∀ pid, underWay ⟨service, rest, others⟩ pid = underWay ⟨service, queue, notices⟩ pid) :
    Orderly ⟨service, rest, others⟩ :=
  { orderly with
    single := fun pid => by
      rw [tokens_mk, same]
      exact orderly.single pid
    live := fun pid some => orderly.live pid (same pid ▸ some) }

theorem step_orderly (orderly : Orderly executor) {event : ExecutorEvent B} (undisturbed : executor.Undisturbed event) :
    Outcome Orderly (fun fault => fault ≠ .nullClient) (executor.step event) := by
  obtain ⟨service, queue, notices⟩ := executor
  cases event with
  | calls call =>
    refine orderly.moved fun pid => ?_
    have another : call.task ≠ .destroyClient pid := by
      cases call <;> simp [ServiceCall.task]
    dsimp only
    rw [underWay_mk, underWay_mk, List.count_append, List.count_singleton, if_neg (by simpa using another),
      Nat.add_zero]
  | dies binder => exact orderly.dies
  | binderDied observer =>
    rw [step]
    split
    · rename_i there
      refine orderly.moved fun pid => ?_
      dsimp only
      rw [underWay_mk, underWay_mk, List.count_append, List.count_erase, List.count_singleton]
      by_cases mine : observer = ⟨pid⟩
      · subst mine
        have some : 0 < notices.count ⟨pid⟩ := List.count_pos_iff.mpr there
        rw [if_pos (beq_self_eq_true _), if_pos (beq_self_eq_true _)]
        omega
      · have another : Task.destroyClient observer.mClientPid ≠ (.destroyClient pid : Task B) :=
          fun same => mine (congrArg ClientDeathObserver.mk (Task.destroyClient.inj same))
        rw [if_neg (by simpa using mine), if_neg (by simpa using another), Nat.sub_zero, Nat.add_zero]
    · exact orderly
  | runs =>
    cases queue with
    | nil => exact orderly
    | cons task queue => exact (run_orderly orderly undisturbed).bind fun after kept => kept

/-- As long as nobody comes between a death and its task, no task destroys null, and
no client is destroyed twice. -/
theorem destroyed_once (events : List (ExecutorEvent B)) (undisturbed : Guarded step Undisturbed initial events) :
    DestroysOnce (events.foldlM step initial) :=
  (undisturbed.invariant initial_orderly fun _ _ orderly met => step_orderly orderly met).imp
    fun _ orderly => orderly.destroyed

/-- One process dies, another one takes its callback back. -/
theorem destroyed_once_after_death :
    DestroysOnce ([.calls (.subscribeCB 7 ⟨4, 0, none⟩ 7), .calls (.subscribeErrorCB 8 8), .runs, .runs,
    .calls (.unsubscribeErrorCB 8), .dies 7, .runs, .binderDied ⟨7⟩, .runs].foldlM step (initial : Executor Nat)) := by
  refine destroyed_once _ ?_
  decide +kernel

end CpuCom.Service.Executor
