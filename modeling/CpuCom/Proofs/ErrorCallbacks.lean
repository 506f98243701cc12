import CpuCom.Proofs.NativeReferences

/-! The error callbacks of the service, which Java and the native part each keep. They
agree as long as no client dies that still has one: only `setErrorCallback` takes the
reference of the native part away, and a death does not go through it. -/

namespace CpuCom.Service.ServiceState
open Interaction

variable {B : Type} [LinearOrder B]

/-- The native part refers to an error callback for a process if and only if the
client of the process has one, and then to this one. -/
def CurrentErrors (service : ServiceState B) : Prop :=
  ∀ pid wrapper, service.native.gErrorCallbacks.getD pid none = some wrapper ↔
    ∃ client ∈ service.mClients, service.pid client = pid ∧ (service.client client).mErrorCallback = some wrapper

/-- Both sides have the same error callbacks, and the native part refers to no wrapper
of a client that was destroyed. -/
structure ErrorCallbacksAgree (service : ServiceState B) : Prop where
  current : CurrentErrors service
  released : ∀ client ∈ service.destroyed, client ∉ service.mClients ∧
    (∀ pid wrapper, (service.client client).mErrorCallback = some wrapper →
      service.native.gErrorCallbacks.getD pid none ≠ some wrapper) ∧
    ∀ pid command key wrapper, service.wrapperOf client key = some wrapper →
      service.native.callbackOf pid command ≠ some (some (.onCommand wrapper))

def DiesWithoutErrorCallback (service : ServiceState B) : ServiceEvent B → Prop
  | .runs (.destroyClient pid) => ∀ client ∈ service.getClient pid, (service.client client).mErrorCallback = none
  | .runs (.subscribe _ _ _) | .runs (.unsubscribe _ _ _) | .runs (.setErrorCallback _ _)
  | .runs (.resetErrorCallback _)
  | .runs (.sendCommand _ _) | .dies _ => True

instance (service : ServiceState B) : DecidablePred (DiesWithoutErrorCallback service)
  | .runs (.destroyClient pid) => inferInstanceAs
      (Decidable (∀ client ∈ service.getClient pid, (service.client client).mErrorCallback = none))
  | .runs (.subscribe _ _ _) | .runs (.unsubscribe _ _ _) | .runs (.setErrorCallback _ _)
  | .runs (.resetErrorCallback _)
  | .runs (.sendCommand _ _) | .dies _ => .isTrue trivial

variable {service before after : ServiceState B} {client : Nat} {command : CpuCommand} {listener binder : B} {pid : Int}

theorem Referenced.agree (referenced : Referenced service) (current : CurrentErrors service) :
    ErrorCallbacksAgree service := by
  refine ⟨current, fun client dead => ⟨fun there => (referenced.listed client there).2 dead, ?_, ?_⟩⟩
  · intro pid wrapper found refers
    obtain ⟨other, there, -, mine⟩ := (current pid wrapper).mp refers
    obtain rfl := (referenced.errors client wrapper found).2 other mine
    exact (referenced.listed other there).2 dead
  · intro pid command key wrapper found refers
    obtain ⟨other, there, -, mine⟩ := referenced.subscribed pid command wrapper refers
    obtain rfl := (referenced.wrappers client key wrapper found).2 other _ mine
    exact (referenced.listed other there).2 dead

theorem initial_current : CurrentErrors (initial : ServiceState B) := by
  intro pid wrapper
  simp [initial, empty, newClient, NativeClients.initial, NativeClients.create]

theorem CurrentErrors.same (current : CurrentErrors before) (same : SameErrors before after)
    (mClients : after.mClients = before.mClients) (pids : after.pid = before.pid) : CurrentErrors after := by
  intro pid wrapper
  rw [same.entries, mClients, pids]
  simp only [same.errors]
  exact current pid wrapper

theorem CurrentErrors.set (current : CurrentErrors before) {callback : Option Nat}
    (sets : SetsError client callback before after) (once : (before.mClients.map before.pid).Nodup)
    (member : client ∈ before.mClients) (mClients : after.mClients = before.mClients) (pids : after.pid = before.pid) :
    CurrentErrors after := by
  intro process wrapper
  rw [sets.entries, mClients, pids, Std.TreeMap.getD_insert]
  by_cases mine : before.pid client = process
  · rw [if_pos (by simpa using mine)]
    constructor
    · intro found
      exact ⟨client, member, mine, sets.error.trans found⟩
    · rintro ⟨other, there, same, found⟩
      obtain rfl := List.inj_on_of_nodup_map once there member (same.trans mine.symm)
      exact sets.error.symm.trans found
  · rw [if_neg (by simpa using mine), current process wrapper]
    refine exists_congr fun other => and_congr_right fun there => and_congr_right fun same => ?_
    rw [sets.others other]
    rintro rfl
    exact mine same

/-- Whoever is created has no callback, and the native part has none for its process. -/
theorem CurrentErrors.created (current : CurrentErrors before) (referenced : Referenced before)
    (creates : Creates pid binder before after)
    (entries : after.native.gErrorCallbacks = before.native.gErrorCallbacks) : CurrentErrors after := by
  intro process wrapper
  rw [entries, current process wrapper]
  constructor
  · rintro ⟨other, there, mine, found⟩
    have older := (referenced.listed other there).1
    refine ⟨other, creates.mem.mpr (.inl there), (creates.older_pid older).trans mine, ?_⟩
    rw [creates.older other (Nat.ne_of_lt older)]
    exact found
  · rintro ⟨other, here, mine, found⟩
    rcases creates.mem.mp here with there | rfl
    · have older := (referenced.listed other there).1
      refine ⟨other, there, (creates.older_pid older).symm.trans mine, ?_⟩
      rw [← creates.older other (Nat.ne_of_lt older)]
      exact found
    · rw [creates.newest] at found
      cases found

theorem CurrentErrors.destroyed (current : CurrentErrors before) (referenced : Referenced before)
    {recipient : ClientDeathObserver} (destroys : Destroys client binder recipient before after)
    (none : (before.client client).mErrorCallback = none)
    (entries : after.native.gErrorCallbacks = before.native.gErrorCallbacks) : CurrentErrors after := by
  intro process wrapper
  rw [entries, current process wrapper, destroys.pid]
  have same (other : Nat) : after.client other = before.client other := by
    rw [ServiceState.client, destroys.clients]
    rfl
  simp only [same, destroys.mem referenced.once]
  constructor
  · rintro ⟨other, there, mine, found⟩
    refine ⟨other, ⟨?_, there⟩, mine, found⟩
    rintro rfl
    rw [none] at found
    cases found
  · rintro ⟨other, ⟨-, there⟩, mine, found⟩
    exact ⟨other, there, mine, found⟩

def ErrorsKept (service : ServiceState B) : Prop := Referenced service ∧ CurrentErrors service

theorem getOrCreateClient_kept (kept : ErrorsKept service) : ErrorsKept (service.getOrCreateClient pid binder).2 ∧
    ∀ client, (service.getOrCreateClient pid binder).1 = some client →
      client ∈ (service.getOrCreateClient pid binder).2.mClients := by
  obtain ⟨referenced, current⟩ := kept
  rw [getOrCreateClient]
  cases found : service.getClient pid with
  | some client =>
    refine ⟨⟨referenced, current⟩, fun other same => ?_⟩
    obtain rfl := Option.some.inj same
    exact (getClient_some found).1
  | none =>
    have creates := @createClient_creates _ _ service pid binder ⟨pid⟩
    refine ⟨⟨createClient_referenced referenced (getClient_none found), current.created referenced creates ?_⟩,
      fun client made => ?_⟩
    · rw [createClient_refers.1]
      rfl
    · refine creates.mem.mpr (.inr ?_)
      dsimp only at made
      rw [createClient] at made
      dsimp only at made
      split at made
      · exact (Option.some.inj made).symm
      · cases made

theorem destroyClient_kept (kept : ErrorsKept service) (member : client ∈ service.mClients)
    (none : (service.client client).mErrorCallback = none) :
    Outcome ErrorsKept (fun _ => True) (service.destroyClient (some client)) := by
  refine ((destroyClient_referenced kept.1 member).and
    ((destroyClient_destroys.fault fun _ _ => trivial).and destroyClient_refers)).imp ?_
  rintro after ⟨referenced, ⟨binder, recipient, destroys⟩, entries, -⟩
  exact ⟨referenced, kept.2.destroyed kept.1 destroys none entries⟩

theorem destroyUnused_kept (kept : ErrorsKept service) (member : client ∈ service.mClients) :
    Outcome ErrorsKept (fun _ => True) (service.destroyUnused client) := by
  rw [destroyUnused]
  cases alive : service.hasAliveRemoteCallbacks client with
  | true => exact kept
  | false => exact destroyClient_kept kept member (not_alive alive).1

theorem setErrorCallback_kept (kept : ErrorsKept service) (member : client ∈ service.mClients) {callback : Option B} :
    Outcome (fun after => ErrorsKept after ∧ client ∈ after.mClients) (fun _ => True)
      (service.setErrorCallback client callback) := by
  refine ((setErrorCallback_touches.fault fun _ _ => trivial).and (setErrorCallback_referenced kept.1)).imp ?_
  rintro after ⟨⟨touches, -⟩, referenced, wrapper, sets⟩
  refine ⟨⟨referenced, kept.2.set sets kept.1.once member touches.mClients (funext touches.pid)⟩, ?_⟩
  exact touches.mClients ▸ member

theorem step_kept (kept : ErrorsKept service) {event : ServiceEvent B} (met : DiesWithoutErrorCallback service event) :
    Outcome ErrorsKept (fun _ => True) (step service event) := by
  cases event with
  | dies binder => exact ⟨kept.1.dies, kept.2⟩
  | runs task =>
    cases task with
    | subscribe pid command listener =>
      rw [step, Task.run]
      split
      · rename_i valid
        obtain ⟨made, member⟩ := @getOrCreateClient_kept _ _ service listener pid kept
        generalize service.getOrCreateClient pid listener = result at made member ⊢
        obtain ⟨found, middle⟩ := result
        cases found with
        | none => exact made
        | some client =>
          refine ((addListener_touches.fault fun _ _ => trivial).and
            (addListener_referenced made.1 (member client rfl) valid)).imp ?_
          rintro after ⟨⟨touches, -⟩, referenced, same⟩
          exact ⟨referenced, made.2.same same touches.mClients (funext touches.pid)⟩
      · exact kept
    | unsubscribe pid command listener =>
      rw [step, Task.run]
      cases found : service.getClient pid with
      | none => exact kept
      | some client =>
        refine ((removeListener_touches.fault fun _ _ => trivial).and (removeListener_referenced kept.1)).bind ?_
        rintro ⟨removed, after⟩ ⟨touches, referenced, same⟩
        refine destroyUnused_kept ⟨referenced, kept.2.same same touches.mClients (funext touches.pid)⟩ ?_
        exact touches.mClients ▸ (getClient_some found).1
    | setErrorCallback pid errorCallback =>
      rw [step, Task.run]
      obtain ⟨made, member⟩ := @getOrCreateClient_kept _ _ service errorCallback pid kept
      generalize service.getOrCreateClient pid errorCallback = result at made member ⊢
      obtain ⟨found, middle⟩ := result
      cases found with
      | none => exact made
      | some client => exact (setErrorCallback_kept made (member client rfl)).imp fun after kept => kept.1
    | resetErrorCallback pid =>
      rw [step, Task.run]
      cases found : service.getClient pid with
      | none => exact kept
      | some client =>
        refine (setErrorCallback_kept kept (getClient_some found).1).bind fun after reset => ?_
        exact destroyUnused_kept reset.1 reset.2
    | sendCommand pid command =>
      rw [step, Task.run]
      split
      · refine ((send_touches.fault fun _ _ => trivial).and (send_referenced kept.1)).imp ?_
        rintro after ⟨⟨touches, -⟩, referenced, same⟩
        exact ⟨referenced, kept.2.same same touches.mClients (funext touches.pid)⟩
      · exact kept
    | destroyClient pid =>
      rw [step, Task.run]
      cases found : service.getClient pid with
      | none => exact trivial
      | some client => exact destroyClient_kept kept (getClient_some found).1 (met client found)

/-- The entry of a client that died with an error callback stays. -/
theorem stale_error (kept : ErrorsKept service) (found : service.getClient pid = some client) {wrapper : Nat}
    (error : (service.client client).mErrorCallback = some wrapper) :
    Outcome (fun after => ¬ CurrentErrors after) (fun _ => True) (service.destroyClient (some client)) := by
  refine ((destroyClient_destroys.fault fun _ _ => trivial).and destroyClient_refers).imp ?_
  rintro after ⟨⟨binder, recipient, destroys⟩, entries, -⟩ current
  obtain ⟨member, mine⟩ := getClient_some found
  have before := (kept.2 pid wrapper).mpr ⟨client, member, mine, error⟩
  obtain ⟨other, here, same, -⟩ := (current pid wrapper).mp (entries ▸ before)
  obtain ⟨different, there⟩ := (destroys.mem kept.1.once).mp here
  rw [destroys.pid] at same
  exact different (List.inj_on_of_nodup_map kept.1.once there member (same.trans mine.symm))

/-- Both sides agree all the time in a run where no client dies that has an error
callback, and in no other run that goes through. -/
theorem error_callbacks_agree (events : List (ServiceEvent B)) :
    (Guarded step DiesWithoutErrorCallback (initial : ServiceState B) events →
      Throughout step ErrorCallbacksAgree (fun _ => True) initial events) ∧
    ∀ last, events.foldlM step (initial : ServiceState B) = .ok last →
      Throughout step ErrorCallbacksAgree (fun _ => True) initial events →
        Guarded step DiesWithoutErrorCallback initial events := by
  have start : ErrorsKept (initial : ServiceState B) := ⟨initial_referenced, initial_current⟩
  constructor
  · intro guarded
    have kept : Throughout step ErrorsKept (fun _ => True) initial events :=
      guarded.throughout start fun service event kept met => step_kept kept met
    exact kept.imp (fun service kept => kept.1.agree kept.2) fun _ _ => trivial
  · intro last ran agree
    refine agree.guarded ran start fun service event next kept stepped agrees => ?_
    have met : DiesWithoutErrorCallback service event := by
      cases event with
      | dies binder => trivial
      | runs task =>
        cases task with
        | destroyClient pid =>
          intro client found
          refine Option.eq_none_iff_forall_ne_some.mpr fun wrapper error => ?_
          have stale := stale_error kept found error
          rw [step, Task.run, Option.mem_def.mp found] at stepped
          rw [stepped] at stale
          exact stale agrees.current
        | _ => trivial
    have after := step_kept kept met
    rw [stepped] at after
    exact ⟨met, after⟩

/-- A process takes its error callback back before it dies, and another one reuses its pid. -/
theorem error_callbacks_agree_reused : Throughout step ErrorCallbacksAgree (fun _ => True) (initial : ServiceState Nat)
    [.runs (.setErrorCallback 7 7), .runs (.subscribe 7 ⟨4, 0, none⟩ 17), .runs (.resetErrorCallback 7), .dies 7,
      .runs (.destroyClient 7), .runs (.setErrorCallback 7 27)] := by
  refine (error_callbacks_agree _).1 ?_
  decide +kernel

/-- A process dies with its error callback, and another one subscribes that reuses its pid. -/
theorem error_callback_stale : ¬ ∀ events : List (ServiceEvent Nat),
    Throughout step ErrorCallbacksAgree (fun _ => True) initial events := by
  intro agree
  have current := (agree [.runs (.setErrorCallback 7 7), .dies 7, .runs (.destroyClient 7),
    .runs (.subscribe 7 ⟨4, 0, none⟩ 17)]).imp (fun service agrees => (agrees.current 7 0).mp) fun _ allowed => allowed
  revert current
  decide +kernel

end CpuCom.Service.ServiceState
