import CpuCom.Proofs.Authorization
import CpuCom.Proofs.NativeReferences

/-! Who is notified has asked for the command when its process had the permission. The
permission may have been taken back since. -/

namespace CpuCom.Service
open Interaction

variable {B : Type} [LinearOrder B]

namespace RemoteCallbackList

theorem mem_of_register {list : RemoteCallbackList B} {alive : Bool} {callback listener : B}
    (member : listener ∈ (list.register alive callback).callbacks) :
    listener ∈ list.callbacks ∨ listener = callback := by
  unfold register at member
  split at member
  · exact (List.mem_cons.mp member).symm
  · exact .inl member

end RemoteCallbackList

namespace ServiceState

/-- A wrapper is for one command of one process, which its listeners have asked for. -/
structure Vouched (asked : Int → Int32 × Int32 → B → Prop) (owner : Nat → Int × Int32 × Int32)
    (service : ServiceState B) : Prop where
  kept : ∀ client key wrapper, service.wrapperOf client key = some wrapper →
    wrapper < service.wrappers.next ∧ owner wrapper = (service.pid client, key)
  called : ∀ pid command wrapper, service.native.callbackOf pid command = some (some (.onCommand wrapper)) →
    wrapper < service.wrappers.next ∧ owner wrapper = (pid, widen command)
  listeners : ∀ wrapper < service.wrappers.next, ∀ listener ∈ (service.wrapper wrapper).callbacks,
    asked (owner wrapper).1 (owner wrapper).2 listener

/-- Nothing new is called, kept or listened to. -/
structure Forgets (before after : ServiceState B) : Prop where
  kept : ∀ client key wrapper, after.wrapperOf client key = some wrapper →
    before.wrapperOf client key = some wrapper ∧ after.pid client = before.pid client
  called : ∀ pid command wrapper, after.native.callbackOf pid command = some (some (.onCommand wrapper)) →
    before.native.callbackOf pid command = some (some (.onCommand wrapper))
  next : after.wrappers.next = before.wrappers.next
  listeners : ∀ wrapper, ∀ listener ∈ (after.wrapper wrapper).callbacks, listener ∈ (before.wrapper wrapper).callbacks

variable {asked : Int → Int32 × Int32 → B → Prop} {owner : Nat → Int × Int32 × Int32}
  {service before middle after : ServiceState B} {client wrapper : Nat} {command : CpuCommand}
  {listener binder : B} {pid : Int}

theorem Forgets.refl : Forgets service service :=
  ⟨fun _ _ _ found => ⟨found, rfl⟩, fun _ _ _ found => found, rfl, fun _ _ member => member⟩

theorem Forgets.trans (first : Forgets before middle) (last : Forgets middle after) : Forgets before after := by
  refine ⟨fun client key wrapper found => ?_, fun pid command wrapper found => ?_, last.next.trans first.next,
    fun wrapper listener member => first.listeners wrapper listener (last.listeners wrapper listener member)⟩
  · obtain ⟨found, same⟩ := last.kept client key wrapper found
    obtain ⟨found, earlier⟩ := first.kept client key wrapper found
    exact ⟨found, same.trans earlier⟩
  · exact first.called pid command wrapper (last.called pid command wrapper found)

theorem Forgets.vouched (forgets : Forgets before after) (vouched : Vouched asked owner before) :
    Vouched asked owner after := by
  refine ⟨fun client key wrapper found => ?_, fun pid command wrapper found => ?_, fun wrapper allocated => ?_⟩
  · obtain ⟨found, same⟩ := forgets.kept client key wrapper found
    rw [forgets.next, same]
    exact vouched.kept client key wrapper found
  · rw [forgets.next]
    exact vouched.called pid command wrapper (forgets.called pid command wrapper found)
  · intro listener member
    exact vouched.listeners wrapper (forgets.next ▸ allocated) listener (forgets.listeners wrapper listener member)

theorem forgets_native {native : NativeClients} {journal : List (NativeClients × NativeCall)}
    (fewer : ∀ pid command wrapper, native.callbackOf pid command = some (some (.onCommand wrapper)) →
      service.native.callbackOf pid command = some (some (.onCommand wrapper))) :
    Forgets service { service with native, journal } :=
  ⟨fun _ _ _ found => ⟨found, rfl⟩, fewer, rfl, fun _ _ member => member⟩

theorem forgets_call {call : NativeCall} (kept : ∀ native, service.native.Refers native call →
      ∀ pid command wrapper, native.callbackOf pid command = some (some (.onCommand wrapper)) →
        service.native.callbackOf pid command = some (some (.onCommand wrapper))) :
    Outcome (Forgets service) (fun _ => True) (service.call call) := by
  refine call_refers.imp ?_
  rintro after ⟨native, journal, rfl, refers⟩
  exact forgets_native (kept native refers)

theorem forgets_remove : Forgets service (service.remove wrapper listener) := by
  refine ⟨fun _ _ _ found => ⟨found, rfl⟩, fun _ _ _ found => found, rfl, fun other member there => ?_⟩
  by_cases same : other = wrapper
  · subst same
    rw [ServiceState.wrapper, remove, changeWrapper] at there
    dsimp only at there
    rw [Heap.get_modify, RemoteCallbackList.mem_unregister] at there
    exact there.1
  · rw [ServiceState.wrapper, remove, changeWrapper] at there
    dsimp only at there
    rwa [Heap.get_modify_ne same] at there

theorem forgets_erase {key : Int32 × Int32} : Forgets service (service.changeCallbacks client (·.erase key)) := by
  refine ⟨fun other another wrapper found => ⟨?_, pid_changeCallbacks⟩, fun _ _ _ found => found, rfl,
    fun _ _ member => member⟩
  by_cases itself : other = client
  · subst itself
    rw [wrapperOf_erase] at found
    split at found
    · cases found
    · exact found
  · exact (wrapperOf_changeCallbacks_ne itself).symm.trans found

theorem removeListener_forgets :
    Outcome (fun result => Forgets service result.2) (fun _ => True)
      (service.removeListener client command listener) := by
  rw [removeListener]
  split
  · dsimp only
    split
    · refine (forgets_call fun native refers process wanted wrapper found => ?_).bind fun after forgets =>
        forgets_remove.trans (forgets.trans forgets_erase)
      rw [refers.2] at found
      split at found
      · cases found
      · exact found
    · exact forgets_remove
  · exact Forgets.refl

theorem send_forgets : Outcome (Forgets service) (fun _ => True) (service.send client command) :=
  forgets_call fun _ refers process wanted _ found => (refers.2 process wanted).symm.trans found

theorem setErrorCallback_forgets {callback : Option B} :
    Outcome (Forgets service) (fun _ => True) (service.setErrorCallback client callback) := by
  have made : Forgets service (service.newErrorWrapper callback).2 := by
    cases callback with
    | none => exact .refl
    | some listener => exact ⟨fun _ _ _ found => ⟨found, rfl⟩, fun _ _ _ found => found, rfl, fun _ _ member => member⟩
  have freed (state : ServiceState B) (old : Option Nat) : Forgets state (state.destroyErrorWrapper old) := by
    cases old with
    | none => exact .refl
    | some wrapper => exact ⟨fun _ _ _ found => ⟨found, rfl⟩, fun _ _ _ found => found, rfl, fun _ _ member => member⟩
  have written (state : ServiceState B) (wrapper : Option Nat) : Forgets state (state.withError client wrapper) :=
    ⟨fun other _ _ found => ⟨wrapperOf_withError.symm.trans found, congrFun pid_withError other⟩,
      fun _ _ _ found => found, rfl, fun _ _ member => member⟩
  rw [setErrorCallback]
  generalize service.newErrorWrapper callback = result at made ⊢
  obtain ⟨wrapper, middle⟩ := result
  dsimp only at made ⊢
  refine (forgets_call fun _ refers process wanted _ found => (refers.2 process wanted).symm.trans found).bind
    fun after forgets => ?_
  exact made.trans (forgets.trans ((freed after _).trans (written _ wrapper)))

theorem destroyClient_forgets {gone : Option Nat} :
    Outcome (Forgets service) (fun _ => True) (service.destroyClient gone) := by
  cases gone with
  | none => exact trivial
  | some client =>
    refine ((destroyClient_destroys.fault fun _ _ => trivial).and destroyClient_refers).imp ?_
    rintro after ⟨⟨binder, recipient, destroys⟩, -, callbacks, wrappers, -⟩
    have same (other : Nat) : after.client other = service.client other := congrArg (Heap.get · other) destroys.clients
    refine ⟨fun other key wrapper found => ⟨?_, congrFun destroys.pid other⟩, fun pid wanted wrapper found => ?_,
      congrArg Heap.next wrappers, fun wrapper listener member => ?_⟩
    · rw [wrapperOf, same] at found
      exact found
    · rw [callbacks] at found
      split at found
      · cases found
      · exact found
    · rw [ServiceState.wrapper, wrappers] at member
      exact member

theorem destroyUnused_forgets : Outcome (Forgets service) (fun _ => True) (service.destroyUnused client) := by
  rw [destroyUnused]
  split
  · exact Forgets.refl
  · exact destroyClient_forgets

theorem dies_forgets : Forgets service (service.dies binder) :=
  ⟨fun _ _ _ found => ⟨found, rfl⟩, fun _ _ _ found => found, rfl,
    fun _ _ member => (RemoteCallbackList.mem_unregister.mp member).1⟩

theorem getOrCreateClient_forgets : Forgets service (service.getOrCreateClient pid binder).2 := by
  rw [getOrCreateClient]
  split
  · exact .refl
  · have creates := @createClient_creates _ _ service pid binder ⟨pid⟩
    obtain ⟨native, wrappers, -⟩ := @createClient_refers _ _ service binder pid ⟨pid⟩
    generalize (service.createClient pid binder ⟨pid⟩).2 = after at creates native wrappers ⊢
    refine ⟨fun client key wrapper found => ?_, fun process wanted wrapper found => ?_, congrArg Heap.next wrappers,
      fun wrapper listener member => ?_⟩
    · by_cases newest : client = service.clients.next
      · rw [wrapperOf, newest, creates.newest] at found
        simp at found
      · rw [wrapperOf, creates.older client newest] at found
        exact ⟨found, congrArg Client.mPid (creates.older client newest)⟩
    · rw [native, NativeClients.callbackOf_create] at found
      exact found
    · rw [ServiceState.wrapper, wrappers] at member
      exact member

theorem computeIfAbsent_vouched (vouched : Vouched asked owner service) : ∃ owner,
    Vouched asked owner (service.computeIfAbsent client command).2 ∧
      (service.computeIfAbsent client command).1 < (service.computeIfAbsent client command).2.wrappers.next ∧
      owner (service.computeIfAbsent client command).1 = (service.pid client, command.key) := by
  cases entry : service.wrapperOf client command.key with
  | some wrapper =>
    rw [computeIfAbsent_some entry]
    exact ⟨owner, vouched, vouched.kept client command.key wrapper entry⟩
  | none =>
    rw [computeIfAbsent_none entry]
    let grown : ServiceState B := { service with wrappers := (service.wrappers.alloc .new).2 }
    have others (other : Nat) (key : Int32 × Int32) (different : other ≠ client) :
        (grown.changeCallbacks client (·.insert command.key service.wrappers.next)).wrapperOf other key =
          service.wrapperOf other key := wrapperOf_changeCallbacks_ne different
    refine ⟨Function.update owner service.wrappers.next (service.pid client, command.key), ?_, Nat.lt_succ_self _,
      Function.update_self ..⟩
    have older (wrapper : Nat) (allocated : wrapper < service.wrappers.next) :
        Function.update owner service.wrappers.next (service.pid client, command.key) wrapper = owner wrapper :=
      Function.update_of_ne (Nat.ne_of_lt allocated) ..
    refine ⟨fun other key wrapper found => ?_, fun pid wanted wrapper found => ?_, fun wrapper allocated member => ?_⟩
    · rw [pid_changeCallbacks]
      have before : wrapper = service.wrappers.next ∧ other = client ∧ key = command.key ∨
          service.wrapperOf other key = some wrapper := by
        by_cases same : other = client
        · subst same
          rw [wrapperOf_insert] at found
          split at found
          · rename_i mine
            exact .inl ⟨(Option.some.inj found).symm, rfl, mine.symm⟩
          · exact .inr found
        · exact .inr ((others other key same).symm.trans found)
      rcases before with ⟨rfl, rfl, rfl⟩ | before
      · exact ⟨Nat.lt_succ_self _, Function.update_self ..⟩
      · obtain ⟨allocated, same⟩ := vouched.kept other key wrapper before
        exact ⟨Nat.lt_succ_of_lt allocated, (older wrapper allocated).trans same⟩
    · obtain ⟨allocated, same⟩ := vouched.called pid wanted wrapper found
      exact ⟨Nat.lt_succ_of_lt allocated, (older wrapper allocated).trans same⟩
    · rcases Nat.lt_succ_iff_lt_or_eq.mp allocated with before | rfl
      · intro there
        rw [older wrapper before]
        refine vouched.listeners wrapper before member ?_
        exact (congrArg (member ∈ RemoteCallbackList.callbacks ·) (Heap.get_alloc_ne (Nat.ne_of_lt before))).mp there
      · intro there
        have blank := (congrArg (member ∈ RemoteCallbackList.callbacks ·) Heap.get_alloc).mp there
        exact absurd blank List.not_mem_nil

theorem put_vouched (vouched : Vouched asked owner service)
    (ask : asked (owner wrapper).1 (owner wrapper).2 listener) : Vouched asked owner (service.put wrapper listener) := by
  refine ⟨vouched.kept, vouched.called, fun other allocated member there => ?_⟩
  by_cases same : other = wrapper
  · subst same
    rw [ServiceState.wrapper, put, changeWrapper] at there
    dsimp only at there
    rw [Heap.get_modify] at there
    rcases RemoteCallbackList.mem_of_register there with before | rfl
    · exact vouched.listeners other allocated member before
    · exact ask
  · rw [ServiceState.wrapper, put, changeWrapper] at there
    dsimp only at there
    rw [Heap.get_modify_ne same] at there
    exact vouched.listeners other allocated member there

theorem addListener_vouched (vouched : Vouched asked owner service) (valid : command.isValid = true)
    (ask : asked (service.pid client) command.key listener) :
    Outcome (fun after => ∃ owner, Vouched asked owner after) (fun _ => True)
      (service.addListener client command listener) := by
  obtain ⟨owner, grown, allocated, own⟩ := @computeIfAbsent_vouched _ _ _ _ _ client command vouched
  have pid : (service.computeIfAbsent client command).2.pid client = service.pid client :=
    (@computeIfAbsent_touches _ _ service client command).1.pid client
  rw [addListener]
  generalize service.computeIfAbsent client command = result at grown allocated own pid ⊢
  obtain ⟨wrapper, middle⟩ := result
  dsimp only at grown allocated own pid ⊢
  have listens : Vouched asked owner (middle.put wrapper listener) := by
    refine put_vouched grown ?_
    rw [own]
    exact ask
  split
  · refine call_refers.imp ?_
    rintro after ⟨native, journal, rfl, -, callbacks⟩
    refine ⟨owner, listens.kept, fun process wanted found called => ?_, listens.listeners⟩
    rw [callbacks] at called
    split at called
    · rename_i mine
      cases before : (middle.put wrapper listener).native.callbackOf process wanted with
      | some callback =>
        rw [before, Option.getD_some] at called
        exact listens.called _ _ _ (before.trans called)
      | none =>
        rw [before, Option.getD_none] at called
        obtain rfl := NativeCallback.onCommand.inj (Option.some.inj (Option.some.inj called))
        refine ⟨allocated, ?_⟩
        rw [mine.1, mine.2, widen_narrow valid, own]
        exact congrArg (·, command.key) pid.symm
    · exact listens.called process wanted found called
  · exact ⟨owner, listens⟩

theorem getOrCreateClient_pid {found : Nat} {after : ServiceState B}
    (got : service.getOrCreateClient pid binder = (some found, after)) : after.pid found = pid := by
  rw [getOrCreateClient] at got
  split at got
  · rename_i client known
    obtain ⟨same, rfl⟩ := Prod.mk.inj got
    exact (getClient_some (known.trans same)).2
  · by_cases dead : binder ∈ service.dead
    · obtain ⟨middle, made, -⟩ := @createClient_dead _ _ service pid binder ⟨pid⟩ dead
      cases made.symm.trans got
    · obtain ⟨middle, made, creates, -⟩ := @createClient_alive _ _ service pid binder ⟨pid⟩ dead
      obtain ⟨same, rfl⟩ := Prod.mk.inj (made.symm.trans got)
      exact Option.some.inj same ▸ creates.newest_pid

end ServiceState

/-- Whoever is to be subscribed has asked for it. -/
def Task.Vouched (asked : Int → Int32 × Int32 → B → Prop) : Task B → Prop
  | .subscribe pid command listener => asked pid command.key listener
  | .unsubscribe _ _ _ | .setErrorCallback _ _ | .resetErrorCallback _ | .sendCommand _ _ | .destroyClient _ => True

def ExecutorEvent.Vouched (asked : Int → Int32 × Int32 → B → Prop) : ExecutorEvent B → Prop
  | .calls call => call.task.Vouched asked
  | .dies _ | .binderDied _ | .runs => True

variable {asked : Int → Int32 × Int32 → B → Prop} {owner : Nat → Int × Int32 × Int32}

open ServiceState in
theorem Task.run_vouched {service : ServiceState B} {task : Task B} (vouched : service.Vouched asked owner)
    (ask : task.Vouched asked) :
    Outcome (fun after => ∃ owner, after.Vouched asked owner) (fun _ => True) (task.run service) := by
  have forgotten (after : ServiceState B) (forgets : Forgets service after) : ∃ owner, after.Vouched asked owner :=
    ⟨owner, forgets.vouched vouched⟩
  cases task with
  | subscribe pid command listener =>
    have made := @getOrCreateClient_forgets _ _ service listener pid
    rw [run]
    split
    · rename_i valid
      cases got : service.getOrCreateClient pid listener with
      | mk client middle =>
        rw [got] at made
        cases client with
        | some client => exact addListener_vouched (made.vouched vouched) valid ((getOrCreateClient_pid got).symm ▸ ask)
        | none => exact forgotten middle made
    · exact forgotten service .refl
  | unsubscribe pid command listener =>
    refine Outcome.imp ?_ forgotten
    rw [run]
    split
    · exact removeListener_forgets.bind fun removed forgets =>
        destroyUnused_forgets.imp fun after last => forgets.trans last
    · exact Forgets.refl
  | setErrorCallback pid errorCallback =>
    refine Outcome.imp ?_ forgotten
    have made := @getOrCreateClient_forgets _ _ service errorCallback pid
    rw [run]
    generalize service.getOrCreateClient pid errorCallback = result at made ⊢
    obtain ⟨client, middle⟩ := result
    cases client with
    | some client => exact setErrorCallback_forgets.imp fun after last => made.trans last
    | none => exact made
  | resetErrorCallback pid =>
    refine Outcome.imp ?_ forgotten
    rw [run]
    split
    · exact setErrorCallback_forgets.bind fun set forgets =>
        destroyUnused_forgets.imp fun after last => forgets.trans last
    · exact Forgets.refl
  | sendCommand pid command =>
    refine Outcome.imp ?_ forgotten
    rw [run]
    split
    · exact send_forgets
    · exact Forgets.refl
  | destroyClient pid => exact Outcome.imp destroyClient_forgets forgotten

namespace Executor

/-- As in its queue, so in its tables. -/
structure Vouched (asked : Int → Int32 × Int32 → B → Prop) (executor : Executor B) : Prop where
  service : ∃ owner, executor.service.Vouched asked owner
  queue : ∀ task ∈ executor.queue, task.Vouched asked

theorem step_vouched {executor : Executor B} {event : ExecutorEvent B} (vouched : executor.Vouched asked)
    (ask : event.Vouched asked) : Outcome (Vouched asked) (fun _ => True) (executor.step event) := by
  obtain ⟨⟨owner, service⟩, queue⟩ := vouched
  have queued (task : Task B) (ask : task.Vouched asked) : ∀ other ∈ executor.queue ++ [task], other.Vouched asked := by
    intro other member
    rcases List.mem_append.mp member with member | member
    · exact queue other member
    · rw [List.mem_singleton.mp member]
      exact ask
  cases event with
  | calls call => exact ⟨⟨owner, service⟩, queued call.task ask⟩
  | dies binder => exact ⟨⟨owner, ServiceState.dies_forgets.vouched service⟩, queue⟩
  | binderDied observer =>
    rw [step]
    split
    · exact ⟨⟨owner, service⟩, queued _ trivial⟩
    · exact ⟨⟨owner, service⟩, queue⟩
  | runs =>
    rw [step]
    cases tasks : executor.queue with
    | nil => exact ⟨⟨owner, service⟩, queue⟩
    | cons task rest =>
      rw [tasks] at queue
      refine (Task.run_vouched service (queue task (List.mem_cons_self ..))).bind fun after vouched => ?_
      exact ⟨vouched, fun other member => queue other (List.mem_cons_of_mem _ member)⟩

theorem initial_vouched : Vouched asked (initial : Executor B) := by
  refine ⟨⟨fun _ => (0, 0, 0), fun client key wrapper found => ?_, fun pid command wrapper found => ?_,
    fun wrapper allocated => absurd allocated (Nat.not_lt_zero wrapper)⟩, fun task member => absurd member List.not_mem_nil⟩
  · have none := (@ServiceState.initial_blank B _ client).2
    rw [initial, ServiceState.wrapperOf, none] at found
    simp at found
  · change (NativeClients.initial.create ServiceState.anonymousClientPid).callbackOf pid command = _ at found
    rw [NativeClients.callbackOf_create] at found
    simp [NativeClients.callbackOf, NativeClients.initial] at found

theorem run_vouched {events : List (ExecutorEvent B)} (ask : ∀ event ∈ events, event.Vouched asked) :
    Outcome (Vouched asked) (fun _ => True) (events.foldlM step initial) :=
  (guarded_of_forall ask).invariant initial_vouched fun _ _ vouched met => step_vouched vouched met

end Executor

/-- The listeners of a notification are those of the wrapper that the native part calls. -/
theorem ServiceState.mem_onNotification {service : ServiceState B} {pid : Int} {command : Uart.CpuCommand}
    {data : Messaging.Data} {listener : B} {received : Received}
    (notified : (listener, received) ∈ service.onNotification pid command data) :
    received = ⟨(widen command).1, (widen command).2, data.map UInt8.toInt8⟩ ∧ ∃ wrapper,
      service.native.callbackOf pid command = some (some (.onCommand wrapper)) ∧
        listener ∈ (service.wrapper wrapper).callbacks := by
  obtain ⟨call, called, reached⟩ := List.mem_flatMap.mp notified
  cases found : service.native.gClients[pid]? with
  | none =>
    rw [NativeClients.onNotification, found] at called
    exact absurd called List.not_mem_nil
  | some client =>
    rw [NativeClients.onNotification_eq found, Std.TreeMap.getD_eq_getD_getElem?] at called
    rcases List.mem_cons.mp called with rfl | called
    · exact absurd reached List.not_mem_nil
    · obtain ⟨callback, there, rfl⟩ := Option.map_eq_some_iff.mp (Option.mem_toList.mp called)
      cases entry : client.callbacks[command]? with
      | none =>
        rw [entry] at there
        cases there
      | some kept =>
        rw [entry, Option.getD_some] at there
        subst there
        cases callback with
        | onError process => exact absurd reached List.not_mem_nil
        | onCommand wrapper =>
          obtain ⟨other, member, same⟩ := List.mem_map.mp reached
          obtain ⟨rfl, rfl⟩ := Prod.mk.inj same
          exact ⟨rfl, wrapper, (NativeClients.callbackOf_known found).trans entry, member⟩

namespace GuardedService

def grantedAfter (granted : Granted) : List (GuardedEvent B) → Granted
  | [] => granted
  | .grants now :: events => grantedAfter now events
  | .calls _ :: events | .dies _ :: events | .binderDied _ :: events | .runs :: events => grantedAfter granted events

omit [LinearOrder B] in
private theorem permitted_later {granted now : Granted} {event : GuardedEvent B} {events : List (GuardedEvent B)}
    {call : ServiceCall B} (same : ∀ events, grantedAfter granted (event :: events) = grantedAfter now events)
    (found : ∃ before after, events = before ++ .calls call :: after ∧
      call.isAccessGranted (grantedAfter now before) = true) :
    ∃ before after, event :: events = before ++ .calls call :: after ∧
      call.isAccessGranted (grantedAfter granted before) = true := by
  obtain ⟨before, after, rfl, permitted⟩ := found
  exact ⟨event :: before, after, rfl, (same before).symm ▸ permitted⟩

omit [LinearOrder B] in
theorem mem_admitted {granted : Granted} {events : List (GuardedEvent B)} {call : ServiceCall B}
    (member : .calls call ∈ admitted granted events) :
    ∃ before after, events = before ++ .calls call :: after ∧
      call.isAccessGranted (grantedAfter granted before) = true := by
  induction events generalizing granted with
  | nil => exact absurd member List.not_mem_nil
  | cons event events ih =>
    cases event with
    | calls other =>
      rw [admitted] at member
      split at member
      · rename_i permitted
        rcases List.mem_cons.mp member with same | member
        · obtain rfl := ExecutorEvent.calls.inj same
          exact ⟨[], events, rfl, permitted⟩
        · exact permitted_later (fun _ => rfl) (ih member)
      · exact permitted_later (fun _ => rfl) (ih member)
    | grants now => exact permitted_later (fun _ => rfl) (ih member)
    | dies binder =>
      rcases List.mem_cons.mp member with same | member
      · cases same
      · exact permitted_later (fun _ => rfl) (ih member)
    | binderDied observer =>
      rcases List.mem_cons.mp member with same | member
      · cases same
      · exact permitted_later (fun _ => rfl) (ih member)
    | runs =>
      rcases List.mem_cons.mp member with same | member
      · cases same
      · exact permitted_later (fun _ => rfl) (ih member)

/-- Whoever is notified has subscribed while its process had the permission of the command. -/
theorem notified_permitted (granted : Granted) (events : List (GuardedEvent B)) (last : GuardedService B)
    (ran : events.foldlM step (.initial granted) = .ok last) (pid : Int) (command : Uart.CpuCommand)
    (data : Messaging.Data) (listener : B) (received : Received)
    (notified : (listener, received) ∈ last.executor.service.onNotification pid command data) :
    received = ⟨(widen command).1, (widen command).2, data.map UInt8.toInt8⟩ ∧
    ∃ wanted before after, events = before ++ .calls (.subscribeCB pid wanted listener) :: after ∧
      wanted.key = widen command ∧ PermissionChecker.isAccessGranted (grantedAfter granted before) pid wanted = true := by
  let asked (pid : Int) (key : Int32 × Int32) (listener : B) : Prop := ∃ wanted : CpuCommand, wanted.key = key ∧
    .calls (.subscribeCB pid wanted listener) ∈ admitted granted events
  have ask : ∀ event ∈ admitted granted events, event.Vouched asked := by
    intro event member
    cases event with
    | calls call =>
      cases call with
      | subscribeCB pid wanted listener => exact ⟨wanted, rfl, member⟩
      | sendCmd pid command => trivial
      | unsubscribeCB pid command listener => trivial
      | subscribeErrorCB pid errorCallback => trivial
      | unsubscribeErrorCB pid => trivial
    | dies binder => trivial
    | binderDied observer => trivial
    | runs => trivial
  have vouched := Executor.run_vouched ask
  have same := run_admitted (.initial granted) events
  rw [ran] at same
  change Except.ok last.executor = (admitted granted events).foldlM Executor.step .initial at same
  rw [← same] at vouched
  obtain ⟨⟨owner, service⟩, -⟩ := vouched
  obtain ⟨rfl, wrapper, called, member⟩ := ServiceState.mem_onNotification notified
  obtain ⟨allocated, own⟩ := service.called pid command wrapper called
  have wish := service.listeners wrapper allocated listener member
  rw [own] at wish
  obtain ⟨wanted, key, admitted⟩ := wish
  obtain ⟨before, after, split, permitted⟩ := mem_admitted admitted
  exact ⟨rfl, wanted, before, after, split, key, permitted⟩

/-- The permission is taken back before the notification. -/
theorem revoked_notified : ∃ last : GuardedService Nat,
    [.grants fun _ _ => true, .calls (.subscribeCB 7 ⟨4, 0, none⟩ 1), .runs, .grants fun _ _ => false,
      .calls (.subscribeCB 8 ⟨4, 0, none⟩ 2), .runs].foldlM step (initial fun _ _ => false) = .ok last ∧
    last.executor.service.onNotification 7 (4, 0) [9] = [(1, ⟨4, 0, [9]⟩)] ∧
    ∃ wanted before after, [.grants fun _ _ => true, .calls (.subscribeCB 7 ⟨4, 0, none⟩ 1), .runs,
        .grants fun _ _ => false, .calls (.subscribeCB 8 ⟨4, 0, none⟩ 2), .runs] =
          before ++ GuardedEvent.calls (.subscribeCB 7 wanted 1) :: after ∧
      wanted.key = widen (4, 0) ∧
      PermissionChecker.isAccessGranted (grantedAfter (fun _ _ => false) before) 7 wanted = true := by
  generalize events : ([.grants fun _ _ => true, .calls (.subscribeCB 7 ⟨4, 0, none⟩ 1), .runs,
    .grants fun _ _ => false, .calls (.subscribeCB 8 ⟨4, 0, none⟩ 2), .runs] : List (GuardedEvent Nat)) = run
  have notified : ((run.foldlM step (initial fun _ _ => false)).toOption.map fun last =>
      last.executor.service.onNotification 7 (4, 0) [9]) = some [(1, ⟨4, 0, [9]⟩)] := by
    subst events
    decide +kernel
  cases ran : run.foldlM step (initial fun _ _ => false) with
  | error fault =>
    rw [ran] at notified
    cases notified
  | ok last =>
    rw [ran] at notified
    have reached : last.executor.service.onNotification 7 (4, 0) [9] = [(1, ⟨4, 0, [9]⟩)] := Option.some.inj notified
    refine ⟨last, rfl, reached, ?_⟩
    exact (notified_permitted (fun _ _ => false) run last ran 7 (4, 0) [9] 1 ⟨4, 0, [9]⟩
      (reached ▸ List.mem_singleton_self _)).2

end GuardedService
end CpuCom.Service
