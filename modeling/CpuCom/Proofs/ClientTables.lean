import CpuCom.Proofs.ServiceSteps

/-! The tables of the service move together. After each task they name the same
clients, and no task calls the native part for a process that it does not know. -/

namespace CpuCom.Service.ServiceState
open Interaction

variable {B : Type} [LinearOrder B]

inductive ServiceEvent (B : Type) where
  | runs (task : Task B)
  | dies (binder : B)
deriving DecidableEq

def step (service : ServiceState B) : ServiceEvent B → Except Fault (ServiceState B)
  | .runs task => task.run service
  | .dies binder => .ok (service.dies binder)

/-- A process passes its own binder, and one that can be linked where it is linked. -/
def Calls (owner : B → Int) (service : ServiceState B) (pid : Int) (binder : B) : Prop :=
  pid ≠ anonymousClientPid ∧ owner binder = pid ∧ (service.getClient pid = none → binder ∉ service.dead)

def Permitted (owner : B → Int) (service : ServiceState B) : ServiceEvent B → Prop
  | .runs (.subscribe pid command listener) => command.isValid = true → Calls owner service pid listener
  | .runs (.setErrorCallback pid errorCallback) => Calls owner service pid errorCallback
  | .runs (.destroyClient pid) => service.getClient pid ≠ none
  | .runs (.unsubscribe _ _ _) | .runs (.resetErrorCallback _) | .runs (.sendCommand _ _) | .dies _ => True

instance (owner : B → Int) (service : ServiceState B) (pid : Int) (binder : B) :
    Decidable (Calls owner service pid binder) :=
  inferInstanceAs (Decidable (_ ∧ _ ∧ (_ → _)))

instance (owner : B → Int) (service : ServiceState B) : DecidablePred (Permitted owner service)
  | .runs (.subscribe pid command listener) => inferInstanceAs
      (Decidable (command.isValid = true → Calls owner service pid listener))
  | .runs (.setErrorCallback pid errorCallback) => inferInstanceAs (Decidable (Calls owner service pid errorCallback))
  | .runs (.destroyClient pid) => inferInstanceAs (Decidable (service.getClient pid ≠ none))
  | .runs (.unsubscribe _ _ _) | .runs (.resetErrorCallback _) | .runs (.sendCommand _ _) | .dies _ => .isTrue trivial

/-- The tables of the service agree, every client has a callback, and the native
part was called for the processes that it knows. -/
structure Consistent (service : ServiceState B) : Prop where
  clients : (service.mClients.map service.pid).Nodup
  processes : ∀ pid, pid ∈ service.native.gClients ↔ pid = anonymousClientPid ∨ ∃ client ∈ service.mClients,
    service.pid client = pid
  observers : ∀ binder, binder ∈ service.mDeathObservers ↔
    ∃ client ∈ service.mClients, (service.client client).mBinder = some binder
  callbacks : ∀ client ∈ service.mClients,
    (service.client client).mCallbacks.isEmpty = false ∨ (service.client client).mErrorCallback ≠ none
  recorded : service.Recorded

/-- A client of the list: its process is not the anonymous one, and its binder is
its own, observed, and linked as long as it lives. -/
structure Own (owner : B → Int) (service : ServiceState B) (client : Nat) (binder : B) : Prop where
  allocated : client < service.clients.next
  pid : service.pid client ≠ anonymousClientPid
  bound : (service.client client).mBinder = some binder
  owned : owner binder = service.pid client
  observed : service.mDeathObservers[binder]? = some ⟨service.pid client⟩
  linked : (binder, ⟨service.pid client⟩) ∈ service.links ∨ binder ∈ service.dead

structure Sound (owner : B → Int) (service : ServiceState B) : Prop where
  once : (service.mClients.map service.pid).Nodup
  own : ∀ client ∈ service.mClients, ∃ binder, Own owner service client binder
  started : 0 < service.clients.next
  anonymous : service.pid mAnonymousClient = anonymousClientPid
  processes : ∀ pid, pid ∈ service.native.gClients ↔ pid = anonymousClientPid ∨ ∃ client ∈ service.mClients,
    service.pid client = pid
  observers : ∀ binder ∈ service.mDeathObservers, ∃ client ∈ service.mClients,
    (service.client client).mBinder = some binder
  recorded : service.Recorded

def UsedBut (client : Nat) (service : ServiceState B) : Prop :=
  ∀ other ∈ service.mClients, other ≠ client → service.hasAliveRemoteCallbacks other = true

def Used (service : ServiceState B) : Prop := ∀ client ∈ service.mClients, service.hasAliveRemoteCallbacks client = true

variable {owner : B → Int} {service before after : ServiceState B} {client other : Nat} {binder : B} {pid : Int}

theorem Sound.injective (sound : Sound owner service) (first : client ∈ service.mClients)
    (second : other ∈ service.mClients)
    (same : service.pid client = service.pid other) : client = other :=
  List.inj_on_of_nodup_map sound.once first second same

theorem Sound.healthy (sound : Sound owner service) (member : client ∈ service.mClients) :
    ∃ binder, Healthy service client binder ⟨service.pid client⟩ := by
  obtain ⟨binder, own⟩ := sound.own client member
  exact ⟨binder, own.bound, own.observed, own.linked, (sound.processes _).mpr (.inr ⟨client, member, rfl⟩)⟩

theorem Sound.touched (sound : Sound owner before) (touches : Touches client before after) : Sound owner after := by
  have pids : after.pid = before.pid := funext touches.pid
  obtain ⟨once, own, started, anonymous, processes, observers, recorded⟩ := sound
  refine ⟨?_, fun other member => ?_, ?_, ?_, fun pid => ?_, fun binder member => ?_, touches.recorded recorded⟩
  · rw [touches.mClients, pids]
    exact once
  · rw [touches.mClients] at member
    obtain ⟨binder, allocated, pid, bound, owned, observed, linked⟩ := own other member
    refine ⟨binder, ?_, ?_, ?_, ?_, ?_, ?_⟩
    · rw [touches.next]
      exact allocated
    · rw [pids]
      exact pid
    · rw [touches.binder]
      exact bound
    · rw [pids]
      exact owned
    · rw [pids, touches.observers]
      exact observed
    · rw [pids, touches.links, touches.dead]
      exact linked
  · rw [touches.next]
    exact started
  · rw [pids]
    exact anonymous
  · rw [touches.processes, touches.mClients, pids]
    exact processes pid
  · rw [touches.observers] at member
    obtain ⟨other, listed, bound⟩ := observers binder member
    exact ⟨other, touches.mClients ▸ listed, (touches.binder other).trans bound⟩

theorem UsedBut.touched (used : UsedBut client before) (touches : Touches client before after) :
    UsedBut client after := by
  intro other member different
  rw [hasAliveRemoteCallbacks, touches.others other different]
  exact used other (touches.mClients ▸ member) different

theorem Sound.destroyed {recipient : ClientDeathObserver} (sound : Sound owner before)
    (member : client ∈ before.mClients)
    (destroys : Destroys client binder recipient before after) : Sound owner after := by
  have pids : after.pid = before.pid := destroys.pid
  have listed (other : Nat) : other ∈ after.mClients ↔ other ≠ client ∧ other ∈ before.mClients :=
    destroys.mem sound.once
  have apart {other : Nat} {bound : B} (another : other ≠ client) (there : other ∈ before.mClients)
      (own : Own owner before other bound) : bound ≠ binder := by
    rintro rfl
    obtain ⟨mine, own_mine⟩ := sound.own client member
    have same : mine = bound := Option.some.inj (own_mine.bound.symm.trans destroys.bound)
    exact another (sound.injective there member (own.owned.symm.trans (same ▸ own_mine.owned)))
  refine ⟨destroys.once sound.once, fun other here => ?_, ?_, ?_, fun pid => ?_, fun bound here => ?_,
    destroys.recorded sound.recorded⟩
  · obtain ⟨another, there⟩ := (listed other).mp here
    obtain ⟨bound, own⟩ := sound.own other there
    have different := apart another there own
    refine ⟨bound, ?_, ?_, ?_, ?_, ?_, ?_⟩
    · rw [destroys.clients]
      exact own.allocated
    · rw [pids]
      exact own.pid
    · rw [ServiceState.client, destroys.clients]
      exact own.bound
    · rw [pids]
      exact own.owned
    · rw [pids, destroys.observers, Std.TreeMap.getElem?_erase, if_neg (by simpa using different.symm)]
      exact own.observed
    · rw [pids, destroys.links, destroys.dead]
      refine own.linked.imp_left fun linked => ?_
      exact (List.mem_erase_of_ne fun same => different (congrArg Prod.fst same)).mpr linked
  · rw [destroys.clients]
    exact sound.started
  · rw [pids]
    exact sound.anonymous
  · rw [destroys.processes, sound.processes, pids]
    obtain ⟨mine, own⟩ := sound.own client member
    constructor
    · rintro ⟨anonymous | ⟨other, there, same⟩, different⟩
      · exact .inl anonymous
      · refine .inr ⟨other, (listed other).mpr ⟨?_, there⟩, same⟩
        rintro rfl
        exact different same.symm
    · rintro (anonymous | ⟨other, here, same⟩)
      · exact ⟨.inl anonymous, fun mine => own.pid (mine.symm.trans anonymous)⟩
      · obtain ⟨another, there⟩ := (listed other).mp here
        refine ⟨.inr ⟨other, there, same⟩, fun mine => ?_⟩
        exact another (sound.injective there member (same.trans mine))
  · rw [destroys.observers, Std.TreeMap.mem_erase] at here
    obtain ⟨different, observed⟩ := here
    obtain ⟨other, there, found⟩ := sound.observers bound observed
    refine ⟨other, (listed other).mpr ⟨?_, there⟩, ?_⟩
    · rintro rfl
      have same : bound = binder := Option.some.inj (found.symm.trans destroys.bound)
      exact different (Std.LawfulEqOrd.compare_eq_iff_eq.mpr same.symm)
    · rw [ServiceState.client, destroys.clients]
      exact found

theorem Sound.created (sound : Sound owner before) (creates : Creates pid binder before after)
    (new : ∀ client ∈ before.mClients, before.pid client ≠ pid) (real : pid ≠ anonymousClientPid)
    (owned : owner binder = pid)
    (links : after.links = before.links ++ [(binder, ⟨pid⟩)])
    (observers : after.mDeathObservers = before.mDeathObservers.insert binder ⟨pid⟩) :
    Sound owner after := by
  have older {other : Nat} (allocated : other < before.clients.next) : after.client other = before.client other :=
    creates.older other (Nat.ne_of_lt allocated)
  have pids {other : Nat} (allocated : other < before.clients.next) : after.pid other = before.pid other :=
    creates.older_pid allocated
  have newest : after.pid before.clients.next = pid := creates.newest_pid
  have allocated {other : Nat} (there : other ∈ before.mClients) : other < before.clients.next := by
    obtain ⟨_, own⟩ := sound.own other there
    exact own.allocated
  have listed (other : Nat) : other ∈ after.mClients ↔ other ∈ before.mClients ∨ other = before.clients.next :=
    creates.mem
  refine ⟨?_, fun other here => ?_, ?_, ?_, fun process => ?_, fun bound here => ?_, ?_⟩
  · exact creates.once (fun _ there => allocated there) new sound.once
  · rcases (listed other).mp here with there | rfl
    · obtain ⟨bound, own⟩ := sound.own other there
      have different : bound ≠ binder := by
        rintro rfl
        exact new other there (own.owned.symm.trans owned)
      refine ⟨bound, ?_, ?_, ?_, ?_, ?_, ?_⟩
      · rw [creates.next]
        exact Nat.lt_succ_of_lt own.allocated
      · rw [pids own.allocated]
        exact own.pid
      · rw [older own.allocated]
        exact own.bound
      · rw [pids own.allocated]
        exact own.owned
      · rw [pids own.allocated, observers, Std.TreeMap.getElem?_insert, if_neg (by simpa using different.symm)]
        exact own.observed
      · rw [pids own.allocated, links, creates.dead]
        exact own.linked.imp_left (List.mem_append_left _)
    · refine ⟨binder, ?_, ?_, ?_, ?_, ?_, .inl ?_⟩
      · rw [creates.next]
        exact Nat.lt_succ_self _
      · rw [newest]
        exact real
      · rw [creates.newest]
      · rw [newest]
        exact owned
      · rw [newest, observers]
        exact Std.TreeMap.getElem?_insert_self
      · rw [newest, links]
        exact List.mem_append_right _ (List.mem_singleton_self _)
  · rw [creates.next]
    exact Nat.succ_pos _
  · exact (pids sound.started).trans sound.anonymous
  · rw [creates.processes, sound.processes]
    constructor
    · rintro (rfl | anonymous | ⟨other, there, mine⟩)
      · exact .inr ⟨_, (listed _).mpr (.inr rfl), newest⟩
      · exact .inl anonymous
      · exact .inr ⟨other, (listed other).mpr (.inl there), (pids (allocated there)).trans mine⟩
    · rintro (anonymous | ⟨other, here, mine⟩)
      · exact .inr (.inl anonymous)
      · rcases (listed other).mp here with there | rfl
        · exact .inr (.inr ⟨other, there, (pids (allocated there)).symm.trans mine⟩)
        · exact .inl (mine.symm.trans newest)
  · rw [observers, Std.TreeMap.mem_insert, Std.LawfulEqOrd.compare_eq_iff_eq] at here
    rcases here with rfl | known
    · exact ⟨_, (listed _).mpr (.inr rfl), congrArg Client.mBinder creates.newest⟩
    · obtain ⟨other, there, found⟩ := sound.observers bound known
      exact ⟨other, (listed other).mpr (.inl there), (congrArg Client.mBinder (older (allocated there))).trans found⟩
  · refine creates.recorded (fun known => ?_) sound.recorded
    rcases (sound.processes pid).mp known with anonymous | ⟨other, there, mine⟩
    · exact real anonymous
    · exact new other there mine

theorem Sound.dies (sound : Sound owner service) : Sound owner (service.dies binder) := by
  obtain ⟨once, own, started, anonymous, processes, observers, recorded⟩ := sound
  refine ⟨once, fun other there => ?_, started, anonymous, processes, observers, recorded⟩
  obtain ⟨bound, allocated, pid, found, owned, observed, linked⟩ := own other there
  refine ⟨bound, allocated, pid, found, owned, observed, ?_⟩
  change _ ∈ service.links.filter _ ∨ bound ∈ binder :: service.dead
  rw [List.mem_filter, List.mem_cons]
  rcases linked with linked | dead
  · by_cases same : bound = binder
    · exact .inr (.inl same)
    · exact .inl ⟨linked, decide_eq_true same⟩
  · exact .inr (.inr dead)

theorem initial_sound : Sound owner (initial : ServiceState B) := by
  refine ⟨.nil, by simp [initial, empty, newClient], Nat.one_pos, congrArg Client.mPid Heap.get_alloc,
    fun pid => ?_, ?_, ?_⟩
  · change pid ∈ (NativeClients.initial.create anonymousClientPid).gClients ↔ _
    rw [NativeClients.mem_create]
    simp [initial, empty, newClient, NativeClients.initial]
  · intro binder member
    exact absurd member Std.TreeMap.not_mem_emptyc
  · intro entry member
    rw [List.mem_singleton.mp member]
    exact Std.TreeMap.not_mem_emptyc

/-- The client that a task works on is there, and only it may be without a callback. -/
theorem getOrCreateClient_sound (sound : Sound owner service) (used : Used service)
    (calls : Calls owner service pid binder) :
    ∃ client after, service.getOrCreateClient pid binder = (some client, after) ∧ Sound owner after ∧
      client ∈ after.mClients ∧ UsedBut client after := by
  obtain ⟨real, owned, alive⟩ := calls
  rw [getOrCreateClient]
  cases found : service.getClient pid with
  | some client =>
    exact ⟨client, service, rfl, sound, (getClient_some found).1, fun other member _ => used other member⟩
  | none =>
    obtain ⟨after, created, creates, links, observers⟩ := createClient_alive (alive found)
    refine ⟨_, after, created, sound.created creates (getClient_none found) real owned links observers, ?_, ?_⟩
    · rw [creates.mClients]
      exact List.mem_append_right _ (List.mem_singleton_self _)
    · intro other member different
      rw [creates.mClients, List.mem_append, List.mem_singleton, or_iff_left different] at member
      rw [hasAliveRemoteCallbacks, creates.older other different]
      exact used other member

theorem Sound.known (sound : Sound owner service) (member : client ∈ service.mClients) {fault : Fault} :
    ¬ Lost service client fault :=
  fun lost => lost.2 ((sound.processes _).mpr (.inr ⟨client, member, rfl⟩))

theorem used_of (used : UsedBut client service) (alive : service.hasAliveRemoteCallbacks client = true) :
    Used service := by
  intro other member
  by_cases same : other = client
  · exact same ▸ alive
  · exact used other member same

/-- What a function of one client leaves, up to the callbacks of this client. -/
theorem destroyUnused_sound (sound : Sound owner service) (member : client ∈ service.mClients)
    (used : UsedBut client service) :
    Outcome (fun after => Sound owner after ∧ Used after) (fun _ => False) (service.destroyUnused client) := by
  rw [destroyUnused]
  split
  · rename_i alive
    exact ⟨sound, used_of used alive⟩
  · obtain ⟨binder, healthy⟩ := sound.healthy member
    refine (destroyClient_destroys.imp ?_).fault fun fault sick => sick.2 _ _ healthy
    rintro after ⟨bound, recipient, destroys⟩
    refine ⟨sound.destroyed member destroys, fun other here => ?_⟩
    rw [destroys.mClients, sound.once.of_map.mem_erase_iff] at here
    rw [hasAliveRemoteCallbacks, ServiceState.client, destroys.clients]
    exact used other here.2 here.1

/-- Every task keeps the tables consistent, and none of them faults. -/
theorem run_sound (sound : Sound owner service) (used : Used service) {task : Task B}
    (permitted : Permitted owner service (.runs task)) :
    Outcome (fun after => Sound owner after ∧ Used after) (fun _ => False) (task.run service) := by
  cases task with
  | subscribe pid command listener =>
    rw [Task.run]
    split
    · rename_i valid
      obtain ⟨client, middle, made, sound, member, used⟩ := getOrCreateClient_sound sound used (permitted valid)
      rw [made]
      refine (addListener_touches.imp ?_).fault fun fault lost => sound.known member lost
      rintro after ⟨touches, alive⟩
      exact ⟨sound.touched touches, used_of (used.touched touches) alive⟩
    · exact ⟨sound, used⟩
  | unsubscribe pid command listener =>
    rw [Task.run]
    split
    · rename_i client found
      have member := (getClient_some found).1
      refine Outcome.bind (removeListener_touches.fault fun fault lost => sound.known member lost)
        fun result touches => ?_
      exact destroyUnused_sound (sound.touched touches) (touches.mClients ▸ member)
        (UsedBut.touched (fun other there _ => used other there) touches)
    · exact ⟨sound, used⟩
  | setErrorCallback pid errorCallback =>
    obtain ⟨client, middle, made, sound, member, used⟩ := getOrCreateClient_sound sound used permitted
    rw [Task.run, made]
    refine (setErrorCallback_touches.imp ?_).fault fun fault lost => sound.known member lost
    rintro after ⟨touches, alive⟩
    exact ⟨sound.touched touches, used_of (used.touched touches) (alive (Option.some_ne_none _))⟩
  | resetErrorCallback pid =>
    rw [Task.run]
    split
    · rename_i client found
      have member := (getClient_some found).1
      refine Outcome.bind (setErrorCallback_touches.fault fun fault lost => sound.known member lost)
        fun after touches => ?_
      exact destroyUnused_sound (sound.touched touches.1) (touches.1.mClients ▸ member)
        (UsedBut.touched (fun other there _ => used other there) touches.1)
    · exact ⟨sound, used⟩
  | sendCommand pid command =>
    rw [Task.run]
    split
    · have process : service.pid ((service.getClient pid).getD mAnonymousClient) ∈ service.native.gClients := by
        cases found : service.getClient pid with
        | none => exact (sound.processes _).mpr (.inl sound.anonymous)
        | some client => exact (sound.processes _).mpr (.inr ⟨client, (getClient_some found).1, rfl⟩)
      refine (send_touches.imp ?_).fault fun fault lost => lost.2 process
      rintro after ⟨touches, same⟩
      refine ⟨sound.touched touches, fun other here => ?_⟩
      rw [hasAliveRemoteCallbacks, ServiceState.client, same]
      exact used other (touches.mClients ▸ here)
    · exact ⟨sound, used⟩
  | destroyClient pid =>
    rw [Task.run]
    cases found : service.getClient pid with
    | none => exact absurd found permitted
    | some client =>
      have member := (getClient_some found).1
      obtain ⟨binder, healthy⟩ := sound.healthy member
      refine (destroyClient_destroys.imp ?_).fault fun fault sick => sick.2 _ _ healthy
      rintro after ⟨bound, recipient, destroys⟩
      refine ⟨sound.destroyed member destroys, fun other here => ?_⟩
      rw [destroys.mClients, sound.once.of_map.mem_erase_iff] at here
      rw [hasAliveRemoteCallbacks, ServiceState.client, destroys.clients]
      exact used other here.2

theorem Sound.consistent (sound : Sound owner service) (used : Used service) : Consistent service := by
  refine ⟨sound.once, sound.processes, fun binder => ⟨sound.observers binder, ?_⟩, fun client member => ?_,
    sound.recorded⟩
  · rintro ⟨client, member, bound⟩
    obtain ⟨mine, own⟩ := sound.own client member
    obtain rfl := Option.some.inj (own.bound.symm.trans bound)
    exact Std.TreeMap.mem_iff_isSome_getElem?.mpr (Option.isSome_of_eq_some own.observed)
  · have alive := used client member
    rw [hasAliveRemoteCallbacks, Bool.or_eq_true, Bool.not_eq_true', Option.isSome_iff_ne_none] at alive
    exact alive

/-- After every run of permitted tasks the tables are consistent. -/
theorem tables_consistent (owner : B → Int) (events : List (ServiceEvent B))
    (permitted : Guarded step (Permitted owner) (initial : ServiceState B) events) :
    ∃ service, events.foldlM step (initial : ServiceState B) = .ok service ∧ Consistent service := by
  have start : Sound owner (initial : ServiceState B) ∧ Used (initial : ServiceState B) :=
    ⟨initial_sound, by simp [Used, initial, empty, newClient]⟩
  have ends : Outcome (fun service => Sound owner service ∧ Used service) (fun _ => False) _ :=
    permitted.invariant start fun service event holds permitted => by
      cases event with
      | runs task => exact run_sound holds.1 holds.2 permitted
      | dies binder => exact ⟨holds.1.dies, holds.2⟩
  obtain ⟨service, ran, sound, used⟩ := ends.exists_ok
  exact ⟨service, ran, sound.consistent used⟩

/-- Two clients, one that takes its callback back and one that dies. -/
theorem tables_consistent_after_death : ∃ service, [.runs (.subscribe 7 ⟨4, 0, none⟩ 7), .runs (.setErrorCallback 8 8),
    .runs (.unsubscribe 7 ⟨4, 0, none⟩ 7), .dies 8, .runs (.destroyClient 8),
      .runs (.sendCommand 8 ⟨4, 0, none⟩)].foldlM step
      (initial : ServiceState Nat) = .ok service ∧ Consistent service := by
  refine tables_consistent (fun binder : Nat => (binder : Int)) _ ?_
  decide +kernel

end CpuCom.Service.ServiceState
