import CpuCom.Proofs.ServiceSteps

/-! A client whose binder cannot be linked. `createClient` returns null for it after it
has put it into the list and into the native part, where later tasks find it. -/

namespace CpuCom.Service.ServiceState
open Interaction

variable {B : Type} [LinearOrder B]

inductive Opening (B : Type) where
  | subscribe (pid : Int) (command : CpuCommand) (listener : B)
  | setErrorCallback (pid : Int) (errorCallback : B)
deriving DecidableEq

def Opening.task : Opening B → Task B
  | .subscribe pid command listener => .subscribe pid command listener
  | .setErrorCallback pid errorCallback => .setErrorCallback pid errorCallback

structure Attempt (B : Type) where
  opening : Opening B
  unreachable : List B

def attempt (service : ServiceState B) (attempt : Attempt B) : Except Fault (ServiceState B) :=
  attempt.opening.task.run { service with dead := attempt.unreachable }

/-- Where null is returned, the lists and the native clients are as before. -/
def Undone (service : ServiceState B) (pid : Int) (binder : B) (deathRecipient : ClientDeathObserver) : Prop :=
  (service.createClient pid binder deathRecipient).1 = none →
    (service.createClient pid binder deathRecipient).2.mClients = service.mClients ∧
    (service.createClient pid binder deathRecipient).2.mDeathObservers = service.mDeathObservers ∧
    (service.createClient pid binder deathRecipient).2.native.gClients = service.native.gClients

/-- An observer of the process is linked to the binder of the client, and one is kept for it. -/
def ObservedClient (service : ServiceState B) (client : Nat) : Prop :=
  ∃ binder ∈ (service.client client).mBinder,
    binder ∈ service.mDeathObservers ∧ (binder, ⟨service.pid client⟩) ∈ service.links

instance (service : ServiceState B) : DecidablePred (ObservedClient service) := fun client =>
  inferInstanceAs (Decidable (∃ binder ∈ (service.client client).mBinder,
    binder ∈ service.mDeathObservers ∧ (binder, ⟨service.pid client⟩) ∈ service.links))

def Observed (service : ServiceState B) : Prop := ∀ pid, ∀ client ∈ service.getClient pid, ObservedClient service client

/-- The binder can be linked if the task creates a client. -/
def Links (service : ServiceState B) (attempt : Attempt B) : Prop :=
  match attempt.opening with
  | .subscribe pid command listener =>
      command.isValid = true → service.getClient pid = none → listener ∉ attempt.unreachable
  | .setErrorCallback pid errorCallback => service.getClient pid = none → errorCallback ∉ attempt.unreachable

instance (service : ServiceState B) : DecidablePred (Links service)
  | ⟨.subscribe pid command listener, unreachable⟩ => inferInstanceAs
      (Decidable (command.isValid = true → service.getClient pid = none → listener ∉ unreachable))
  | ⟨.setErrorCallback pid errorCallback, unreachable⟩ => inferInstanceAs
      (Decidable (service.getClient pid = none → errorCallback ∉ unreachable))

/-- What the tasks that create clients keep: a process has one client at most, the
native part knows it, and only processes that have one are linked. -/
structure Opened (service : ServiceState B) : Prop where
  once : (service.mClients.map service.pid).Nodup
  allocated : ∀ client ∈ service.mClients, client < service.clients.next
  known : ∀ client ∈ service.mClients, service.pid client ∈ service.native.gClients
  linked : ∀ link ∈ service.links, ∃ client ∈ service.mClients, service.pid client = link.2.mClientPid

def AllObserved (service : ServiceState B) : Prop := ∀ client ∈ service.mClients, ObservedClient service client

variable {service before after : ServiceState B} {client : Nat} {binder : B} {pid : Int}

theorem undone_iff {recipient : ClientDeathObserver} :
    Undone service pid binder recipient ↔ service.isBinderAlive binder = true := by
  rw [isBinderAlive_iff]
  constructor
  · intro undone dead
    obtain ⟨after, made, creates, -⟩ := @createClient_dead _ _ service pid binder recipient dead
    rw [Undone, made] at undone
    have same := (undone rfl).1
    rw [creates.mClients] at same
    exact absurd same (by simp)
  · intro alive null
    obtain ⟨after, made, -⟩ := @createClient_alive _ _ service pid binder recipient alive
    rw [made] at null
    cases null

/-- To find a client is to have it in the list, where its process has no other one. -/
theorem Opened.observed_iff (opened : Opened service) : Observed service ↔ AllObserved service := by
  constructor
  · intro observed client member
    refine observed (service.pid client) client ?_
    cases found : service.getClient (service.pid client) with
    | none => exact absurd rfl (getClient_none found client member)
    | some other =>
      obtain ⟨there, same⟩ := getClient_some found
      exact congrArg some (List.inj_on_of_nodup_map opened.once there member same)
  · intro observed pid client found
    exact observed client (getClient_some found).1

theorem ObservedClient.touched {other : Nat} (observed : ObservedClient before other)
    (touches : Touches client before after) :
    ObservedClient after other := by
  obtain ⟨binder, bound, kept, linked⟩ := observed
  refine ⟨binder, ?_, ?_, ?_⟩
  · rw [touches.binder]
    exact bound
  · rw [touches.observers]
    exact kept
  · rw [touches.links, touches.pid]
    exact linked

theorem AllObserved.touched (observed : AllObserved before) (touches : Touches client before after) :
    AllObserved after :=
  fun other member => (observed other (touches.mClients ▸ member)).touched touches

theorem Opened.touched (opened : Opened before) (touches : Touches client before after) : Opened after := by
  have pids : after.pid = before.pid := funext touches.pid
  obtain ⟨once, allocated, known, linked⟩ := opened
  refine ⟨?_, ?_, fun other member => ?_, ?_⟩
  · rw [touches.mClients, pids]
    exact once
  · rw [touches.mClients, touches.next]
    exact allocated
  · rw [touches.processes, pids]
    exact known other (touches.mClients ▸ member)
  · rw [touches.links, touches.mClients, pids]
    exact linked

theorem Opened.created (opened : Opened before) (creates : Creates pid binder before after)
    (new : ∀ client ∈ before.mClients, before.pid client ≠ pid)
    (links : ∀ link ∈ after.links, link ∈ before.links ∨ link = (binder, ⟨pid⟩)) : Opened after := by
  obtain ⟨once, allocated, known, linked⟩ := opened
  refine ⟨creates.once allocated new once, fun other here => ?_, fun other here => ?_, fun link here => ?_⟩
  · rw [creates.next]
    rcases creates.mem.mp here with there | rfl
    · exact Nat.lt_succ_of_lt (allocated other there)
    · exact Nat.lt_succ_self _
  · rw [creates.processes]
    rcases creates.mem.mp here with there | rfl
    · rw [creates.older_pid (allocated other there)]
      exact .inr (known other there)
    · exact .inl creates.newest_pid
  · rcases links link here with there | rfl
    · obtain ⟨other, member, mine⟩ := linked link there
      exact ⟨other, creates.mem.mpr (.inl member), (creates.older_pid (allocated other member)).trans mine⟩
    · exact ⟨_, creates.mem.mpr (.inr rfl), creates.newest_pid⟩

theorem AllObserved.created (observed : AllObserved before) (opened : Opened before)
    (creates : Creates pid binder before after) (links : after.links = before.links ++ [(binder, ⟨pid⟩)])
    (observers : after.mDeathObservers = before.mDeathObservers.insert binder ⟨pid⟩) : AllObserved after := by
  intro other here
  rcases creates.mem.mp here with there | rfl
  · have older := opened.allocated other there
    obtain ⟨bound, mine, kept, linked⟩ := observed other there
    refine ⟨bound, ?_, ?_, ?_⟩
    · rw [creates.older other (Nat.ne_of_lt older)]
      exact mine
    · rw [observers, Std.TreeMap.mem_insert]
      exact .inr kept
    · rw [links, creates.older_pid older]
      exact List.mem_append_left _ linked
  · refine ⟨binder, ?_, ?_, ?_⟩
    · rw [creates.newest]
      rfl
    · rw [observers, Std.TreeMap.mem_insert]
      exact .inl Std.ReflCmp.compare_self
    · rw [links, creates.newest_pid]
      exact List.mem_append_right _ (List.mem_singleton_self _)

/-- The client of a task is there, and all are observed if it could be linked. Where it
could not, it is there as well, but nobody observes it. -/
theorem getOrCreateClient_opened (opened : Opened service) :
    Opened (service.getOrCreateClient pid binder).2 ∧
      (∀ client, (service.getOrCreateClient pid binder).1 = some client →
        client ∈ (service.getOrCreateClient pid binder).2.mClients) ∧
      ((service.getClient pid = none → binder ∉ service.dead) → AllObserved service →
        AllObserved (service.getOrCreateClient pid binder).2) ∧
      (¬ (service.getClient pid = none → binder ∉ service.dead) →
        (service.getOrCreateClient pid binder).1 = none ∧ ¬ AllObserved (service.getOrCreateClient pid binder).2) := by
  rw [getOrCreateClient]
  cases found : service.getClient pid with
  | some client =>
    refine ⟨opened, fun other same => ?_, fun _ observed => observed,
      fun failed => absurd (fun missing => absurd missing (Option.some_ne_none _)) failed⟩
    obtain rfl := Option.some.inj same
    exact (getClient_some found).1
  | none =>
    have new := getClient_none found
    by_cases dead : binder ∈ service.dead
    · obtain ⟨after, made, creates, links, -⟩ := @createClient_dead _ _ service pid binder ⟨pid⟩ dead
      dsimp only
      rw [made]
      refine ⟨opened.created creates new fun link here => .inl (links ▸ here), fun client null => ?_,
        fun alive => absurd dead (alive rfl), fun _ => ⟨rfl, fun observed => ?_⟩⟩
      · cases null
      · obtain ⟨bound, mine, -, linked⟩ := observed _ (creates.mem.mpr (.inr rfl))
        rw [links, creates.newest_pid] at linked
        obtain ⟨other, there, same⟩ := opened.linked _ linked
        exact new other there same
    · obtain ⟨after, made, creates, links, observers⟩ := @createClient_alive _ _ service pid binder ⟨pid⟩ dead
      dsimp only
      rw [made]
      refine ⟨opened.created creates new fun link here => ?_, fun client same => ?_,
        fun _ observed => observed.created opened creates links observers, fun failed => absurd (fun _ => dead) failed⟩
      · rw [links, List.mem_append, List.mem_singleton] at here
        exact here
      · obtain rfl := Option.some.inj same
        exact creates.mem.mpr (.inr rfl)

/-- The functions of the client that a task has found or created change neither the
lists nor the links, and do not fault. -/
theorem Opened.finish (opened : Opened service) (member : client ∈ service.mClients)
    {result : Except Fault (ServiceState B)} {good : ServiceState B → Prop}
    (touches : Outcome good (Lost service client) result)
    (touched : ∀ after, good after → Touches client service after) :
    Outcome (fun after => Opened after ∧ (AllObserved service → AllObserved after)) (fun _ => False) result := by
  refine (touches.imp fun after leaves => ?_).fault fun fault lost => lost.2 (opened.known client member)
  exact ⟨opened.touched (touched after leaves), fun observed => observed.touched (touched after leaves)⟩

theorem attempt_opened (opened : Opened service) (tried : Attempt B) :
    Outcome (fun after => Opened after ∧ (Links service tried → AllObserved service → AllObserved after) ∧
      (¬ Links service tried → ¬ AllObserved after)) (fun _ => False) (attempt service tried) := by
  obtain ⟨opening, unreachable⟩ := tried
  have reached : Opened { service with dead := unreachable } :=
    ⟨opened.once, opened.allocated, opened.known, opened.linked⟩
  cases opening with
  | subscribe pid command listener =>
    rw [attempt, Opening.task, Task.run]
    split
    · rename_i valid
      have links : Links service ⟨.subscribe pid command listener, unreachable⟩ ↔
          (service.getClient pid = none → listener ∉ unreachable) := forall_prop_of_true valid
      rw [links]
      obtain ⟨made, member, linked, failed⟩ := @getOrCreateClient_opened _ _ _ listener pid reached
      generalize getOrCreateClient { service with dead := unreachable } pid listener = result
        at made member linked failed ⊢
      obtain ⟨found, middle⟩ := result
      cases found with
      | none => exact ⟨made, linked, fun unlinked => (failed unlinked).2⟩
      | some client =>
        refine (made.finish (member client rfl) addListener_touches fun after leaves => leaves.1).imp
          fun after kept => ?_
        refine ⟨kept.1, fun links observed => kept.2 (linked links observed), fun unlinked => ?_⟩
        cases (failed unlinked).1
    · rename_i invalid
      exact ⟨reached, fun _ observed => observed, fun failed => absurd (fun valid => absurd valid invalid) failed⟩
  | setErrorCallback pid errorCallback =>
    rw [attempt, Opening.task, Task.run]
    obtain ⟨made, member, linked, failed⟩ := @getOrCreateClient_opened _ _ _ errorCallback pid reached
    generalize getOrCreateClient { service with dead := unreachable } pid errorCallback = result
      at made member linked failed ⊢
    obtain ⟨found, middle⟩ := result
    cases found with
    | none => exact ⟨made, linked, fun unlinked => (failed unlinked).2⟩
    | some client =>
      refine (made.finish (member client rfl) setErrorCallback_touches fun after leaves => leaves.1).imp
        fun after kept => ?_
      refine ⟨kept.1, fun links observed => kept.2 (linked links observed), fun unlinked => ?_⟩
      cases (failed unlinked).1

theorem initial_opened : Opened (initial : ServiceState B) := by
  refine ⟨.nil, ?_, ?_, ?_⟩ <;> simp [initial, empty, newClient]

/-- A creation that fails leaves its client behind, so that nothing is undone; and in a
run of the tasks that create clients every client that can be found is observed all
the time if and only if no creation fails. -/
theorem creations_undone_iff (pid : Int) (binder : B) (deathRecipient : ClientDeathObserver)
    (attempts : List (Attempt B)) :
    (∀ service : ServiceState B, Undone service pid binder deathRecipient ↔ service.isBinderAlive binder = true) ∧
      (Throughout attempt Observed (fun _ => False) (initial : ServiceState B) attempts ↔
        Guarded attempt Links (initial : ServiceState B) attempts) := by
  refine ⟨fun service => undone_iff, ?_, fun guarded => ?_⟩
  · intro throughout
    obtain ⟨last, ran⟩ := throughout.exists_last
    refine throughout.guarded ran initial_opened fun service tried next opened stepped observed => ?_
    have after := attempt_opened opened tried
    rw [stepped] at after
    refine ⟨Decidable.byContradiction fun unlinked => ?_, after.1⟩
    exact after.2.2 unlinked (after.1.observed_iff.mp observed)
  · have start : Opened (initial : ServiceState B) ∧ AllObserved (initial : ServiceState B) :=
      ⟨initial_opened, by simp [AllObserved, initial, empty, newClient]⟩
    have kept :
        Throughout attempt (fun service => Opened service ∧ AllObserved service) (fun _ => False) initial attempts :=
      guarded.throughout start fun service tried kept links =>
        (attempt_opened kept.1 tried).imp fun after left => ⟨left.1, left.2.1 links kept.2⟩
    exact kept.imp (fun service kept => kept.1.observed_iff.mpr kept.2) fun _ impossible => impossible

/-- A process subscribes with a listener that cannot be linked. The client that it does
not get is in the list, and its next subscription finds it. -/
theorem failed_creation_found : ¬ Undone ((initial : ServiceState Nat).dies 7) 7 7 ⟨7⟩ ∧
    ¬ ∀ attempts : List (Attempt Nat), Throughout attempt Observed (fun _ => False) initial attempts := by
  constructor
  · intro undone
    have same := (undone (by decide +kernel)).1
    revert same
    decide +kernel
  · intro observed
    have found := (observed [⟨.subscribe 7 ⟨4, 0, none⟩ 7, [7]⟩, ⟨.subscribe 7 ⟨4, 0, none⟩ 8, []⟩]).imp
      (fun service observed => observed 7) fun _ allowed => allowed
    revert found
    decide +kernel

end CpuCom.Service.ServiceState
