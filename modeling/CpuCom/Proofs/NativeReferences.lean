import CpuCom.Proofs.ClientTables

/-! The global references of the native part: one in `gErrorCallbacks` for the error
callback of a process, and one in its `v2::CpuCom` for each subscription. Every
function of the service either adds the reference of its client or takes some away. -/

namespace CpuCom.Service
open Interaction

namespace NativeClients

def callbackOf (native : NativeClients) (pid : Int) (command : Uart.CpuCommand) : Option (Option NativeCallback) :=
  (native.gClients[pid]?).bind fun client => client.callbacks[command]?

variable {native : NativeClients} {pid other : Int} {command : Uart.CpuCommand} {cmd subCmd : Int32}

theorem callbackOf_insert {clients : Std.TreeMap Int NativeClient} {after : NativeClient} :
    callbackOf { native with gClients := clients.insert pid after } other command =
      if other = pid then after.callbacks[command]?
      else callbackOf { native with gClients := clients } other command := by
  unfold callbackOf
  by_cases same : other = pid
  · subst same
    rw [if_pos rfl, Std.TreeMap.getElem?_insert_self]
    rfl
  · rw [if_neg same, Std.TreeMap.getElem?_insert, if_neg (by simpa using fun mine => same mine.symm)]

theorem callbackOf_known {client : NativeClient} (found : native.gClients[pid]? = some client) :
    native.callbackOf pid command = client.callbacks[command]? := by
  rw [callbackOf, found]
  rfl

theorem callbackOf_unknown (missing : native.gClients[pid]? = none) : native.callbackOf pid command = none := by
  rw [callbackOf, missing]
  rfl

theorem callbackOf_create : (native.create pid).callbackOf other command = native.callbackOf other command := by
  rw [create, callbackOf_insert]
  split
  · rename_i same
    subst same
    have kept : (native.gClients.insertIfNew other (.initial none)).getD other (.initial none) =
        native.gClients.getD other (.initial none) := by
      rw [Std.TreeMap.getD_insertIfNew]
      split
      · rename_i new
        exact (Std.TreeMap.getD_eq_fallback new.2).symm
      · rfl
    dsimp only
    rw [kept, Std.TreeMap.getD_eq_getD_getElem?]
    cases found : native.gClients[other]? with
    | some client => exact (callbackOf_known found).symm
    | none => exact (callbackOf_unknown found).symm
  · rename_i different
    unfold callbackOf
    rw [Std.TreeMap.getElem?_insertIfNew, if_neg (by simpa using fun mine => absurd mine.symm different)]

/-- The references that a call adds or takes away. -/
def Refers (native after : NativeClients) : NativeCall → Prop
  | .create _ | .send _ _ _ _ => after.gErrorCallbacks = native.gErrorCallbacks ∧
      ∀ other command, after.callbackOf other command = native.callbackOf other command
  | .setErrorCallback pid callback => after.gErrorCallbacks = native.gErrorCallbacks.insert pid callback ∧
      ∀ other command, after.callbackOf other command = native.callbackOf other command
  | .destroy pid => after.gErrorCallbacks = native.gErrorCallbacks ∧
      ∀ other command, after.callbackOf other command = if other = pid then none else native.callbackOf other command
  | .subscribe pid cmd subCmd callback => after.gErrorCallbacks = native.gErrorCallbacks ∧
      ∀ other command, after.callbackOf other command =
        if other = pid ∧ command = narrow cmd subCmd then
          some ((native.callbackOf other command).getD (some (.onCommand callback)))
        else native.callbackOf other command
  | .unsubscribe pid cmd subCmd => after.gErrorCallbacks = native.gErrorCallbacks ∧
      ∀ other command, after.callbackOf other command =
        if other = pid ∧ command = narrow cmd subCmd then none else native.callbackOf other command

private theorem processed_refers {call : NativeCall} {result : Except Fault NativeClients}
    (known : ∀ client, native.gClients[pid]? = some client → Outcome (native.Refers · call) (fun _ => True) result)
    (unknown : native.gClients[pid]? = none → result = .error .nativeCrash) :
    Outcome (native.Refers · call) (fun _ => True) result := by
  cases found : native.gClients[pid]? with
  | none =>
    rw [unknown found]
    exact trivial
  | some client => exact known client found

theorem perform_refers (call : NativeCall) : Outcome (native.Refers · call) (fun _ => True) (native.perform call) := by
  cases call with
  | create pid => exact ⟨rfl, fun _ _ => callbackOf_create⟩
  | setErrorCallback pid callback => exact ⟨rfl, fun _ _ => rfl⟩
  | destroy pid =>
    rw [perform]
    split
    · refine ⟨rfl, fun other command => ?_⟩
      unfold callbackOf
      dsimp only
      rw [Std.TreeMap.getElem?_erase]
      by_cases same : other = pid
      · subst same
        rw [if_pos Std.ReflCmp.compare_self, if_pos rfl]
        rfl
      · rw [if_neg (by simpa using fun mine => same mine.symm), if_neg same]
    · exact trivial
  | send pid cmd subCmd data =>
    refine processed_refers (fun client found => ?_) fun unknown => by rw [perform, call_unknown unknown]
    rw [perform_send found]
    refine ⟨rfl, fun other command => ?_⟩
    rw [callbackOf_insert]
    split
    · rename_i same
      rw [same, callbackOf_known found]
    · rfl
  | subscribe pid cmd subCmd callback =>
    refine processed_refers (fun client found => ?_) fun unknown => by rw [perform, call_unknown unknown]
    rw [perform_subscribe found]
    refine ⟨rfl, fun other command => ?_⟩
    rw [callbackOf_insert]
    by_cases same : other = pid
    · subst same
      rw [if_pos rfl, callbacks_addCallback, callbackOf_known found]
      by_cases mine : command = narrow cmd subCmd
      · rw [if_pos mine.symm, if_pos ⟨rfl, mine⟩, mine]
      · rw [if_neg fun other => mine other.symm, if_neg fun both => mine both.2]
    · rw [if_neg same, if_neg fun both => same both.1]
  | unsubscribe pid cmd subCmd =>
    refine processed_refers (fun client found => ?_) fun unknown => by rw [perform, call_unknown unknown]
    rw [perform_unsubscribe found]
    refine ⟨rfl, fun other command => ?_⟩
    rw [callbackOf_insert]
    by_cases same : other = pid
    · subst same
      rw [if_pos rfl, callbackOf_known found, Std.TreeMap.getElem?_erase]
      by_cases mine : command = narrow cmd subCmd
      · rw [if_pos (by simpa using mine.symm), if_pos ⟨rfl, mine⟩]
      · rw [if_neg (by simpa using fun other => mine other.symm), if_neg fun both => mine both.2]
    · rw [if_neg same, if_neg fun both => same both.1]

end NativeClients

namespace ServiceState

variable {B : Type} [LinearOrder B]

/-- Wrappers belong to one client each, and what the native part calls for a command
is the wrapper of a client of the list. -/
structure Referenced (service : ServiceState B) : Prop where
  once : (service.mClients.map service.pid).Nodup
  listed : ∀ client ∈ service.mClients, client < service.clients.next ∧ client ∉ service.destroyed
  gone : ∀ client ∈ service.destroyed, client < service.clients.next
  errors : ∀ client wrapper, (service.client client).mErrorCallback = some wrapper →
    wrapper < service.errorWrappers.next ∧
    ∀ other, (service.client other).mErrorCallback = some wrapper → other = client
  wrappers : ∀ client key wrapper, service.wrapperOf client key = some wrapper → wrapper < service.wrappers.next ∧
    ∀ other another, service.wrapperOf other another = some wrapper → other = client
  subscribed : ∀ pid command wrapper, service.native.callbackOf pid command = some (some (.onCommand wrapper)) →
    ∃ client ∈ service.mClients, service.pid client = pid ∧ service.wrapperOf client (widen command) = some wrapper

structure SameErrors (before after : ServiceState B) : Prop where
  errors : ∀ client, (after.client client).mErrorCallback = (before.client client).mErrorCallback
  entries : after.native.gErrorCallbacks = before.native.gErrorCallbacks

structure SetsError (client : Nat) (callback : Option Nat) (before after : ServiceState B) : Prop where
  error : (after.client client).mErrorCallback = callback
  others : ∀ other, other ≠ client → (after.client other).mErrorCallback = (before.client other).mErrorCallback
  entries : after.native.gErrorCallbacks = before.native.gErrorCallbacks.insert (before.pid client) callback

variable {service before after : ServiceState B} {client other wrapper : Nat} {key : Int32 × Int32}
  {command : CpuCommand} {listener binder : B} {pid : Int}

theorem SameErrors.refl : SameErrors service service := ⟨fun _ => rfl, rfl⟩

theorem SameErrors.trans (first : SameErrors before service) (last : SameErrors service after) :
    SameErrors before after :=
  ⟨fun client => (last.errors client).trans (first.errors client), last.entries.trans first.entries⟩

theorem call_refers {call : NativeCall} :
    Outcome
      (fun after => ∃ native journal, after = { service with native, journal } ∧ service.native.Refers native call)
      (fun _ => True) (service.call call) :=
  (NativeClients.perform_refers call).bind fun native refers => ⟨native, _, rfl, refers⟩

theorem wrapperOf_changeCallbacks_ne
    {change : Std.TreeMap (Int32 × Int32) Nat compareKeys → Std.TreeMap (Int32 × Int32) Nat compareKeys}
    (different : other ≠ client) :
    (service.changeCallbacks client change).wrapperOf other key = service.wrapperOf other key := by
  rw [wrapperOf, ServiceState.client, changeCallbacks]
  dsimp only
  rw [Heap.get_modify_ne different]
  rfl

theorem sameErrors_changeCallbacks
    {change : Std.TreeMap (Int32 × Int32) Nat compareKeys → Std.TreeMap (Int32 × Int32) Nat compareKeys} :
    SameErrors service (service.changeCallbacks client change) := by
  refine ⟨fun other => ?_, rfl⟩
  unfold ServiceState.client changeCallbacks
  dsimp only
  exact Heap.modify_keeps Client.mErrorCallback fun _ => rfl

theorem initial_blank (client : Nat) : ((initial : ServiceState B).client client).mErrorCallback = none ∧
    ((initial : ServiceState B).client client).mCallbacks = ∅ := by
  by_cases first : client = 0
  · subst first
    exact ⟨congrArg Client.mErrorCallback Heap.get_alloc, congrArg Client.mCallbacks Heap.get_alloc⟩
  · exact ⟨congrArg Client.mErrorCallback (Heap.get_alloc_ne first),
      congrArg Client.mCallbacks (Heap.get_alloc_ne first)⟩

theorem initial_referenced : Referenced (initial : ServiceState B) := by
  refine ⟨.nil, by simp [initial, empty, newClient], by simp [initial, empty, newClient],
    fun client wrapper found => ?_,
    fun client key wrapper found => ?_, fun pid command wrapper found => ?_⟩
  · rw [(initial_blank client).1] at found
    cases found
  · rw [wrapperOf, (initial_blank client).2] at found
    simp at found
  · change (NativeClients.initial.create anonymousClientPid).callbackOf pid command = _ at found
    rw [NativeClients.callbackOf_create] at found
    simp [NativeClients.callbackOf, NativeClients.initial] at found

/-- Clients that have no other error callbacks than before do not share them either. -/
theorem Referenced.errors_fewer (referenced : Referenced before)
    (fewer : ∀ client wrapper, (after.client client).mErrorCallback = some wrapper →
      (before.client client).mErrorCallback = some wrapper)
    (more : before.errorWrappers.next ≤ after.errorWrappers.next) (client wrapper : Nat)
    (found : (after.client client).mErrorCallback = some wrapper) : wrapper < after.errorWrappers.next ∧
      ∀ other, (after.client other).mErrorCallback = some wrapper → other = client :=
  have known := referenced.errors client wrapper (fewer client wrapper found)
  ⟨known.1.trans_le more, fun other here => known.2 other (fewer other wrapper here)⟩

theorem Referenced.wrappers_fewer (referenced : Referenced before)
    (fewer : ∀ client key wrapper, after.wrapperOf client key = some wrapper →
      before.wrapperOf client key = some wrapper)
    (more : before.wrappers.next ≤ after.wrappers.next) (client : Nat) (key : Int32 × Int32) (wrapper : Nat)
    (found : after.wrapperOf client key = some wrapper) : wrapper < after.wrappers.next ∧
      ∀ other another, after.wrapperOf other another = some wrapper → other = client :=
  have known := referenced.wrappers client key wrapper (fewer client key wrapper found)
  ⟨known.1.trans_le more, fun other another here => known.2 other another (fewer other another wrapper here)⟩

theorem Referenced.native (referenced : Referenced service) {native : NativeClients}
    {journal : List (NativeClients × NativeCall)}
    (fewer : ∀ pid command wrapper, native.callbackOf pid command = some (some (.onCommand wrapper)) →
      service.native.callbackOf pid command = some (some (.onCommand wrapper))) :
    Referenced { service with native, journal } :=
  { referenced with
    subscribed :=
      fun pid command wrapper found => referenced.subscribed pid command wrapper (fewer pid command wrapper found) }

theorem Referenced.heaps (referenced : Referenced service) {wrappers errorWrappers : Heap (RemoteCallbackList B)}
    (same : wrappers.next = service.wrappers.next) (more : service.errorWrappers.next ≤ errorWrappers.next) :
    Referenced { service with wrappers, errorWrappers } :=
  { referenced with
    errors := referenced.errors_fewer (fun _ _ found => found) more
    wrappers := referenced.wrappers_fewer (fun _ _ _ found => found) same.ge }

theorem computeIfAbsent_referenced (referenced : Referenced service) :
    Referenced (service.computeIfAbsent client command).2 ∧
      SameErrors service (service.computeIfAbsent client command).2 ∧
      (service.computeIfAbsent client command).2.wrapperOf client command.key =
        some (service.computeIfAbsent client command).1 := by
  cases entry : service.wrapperOf client command.key with
  | some wrapper =>
    rw [computeIfAbsent_some entry]
    exact ⟨referenced, .refl, entry⟩
  | none =>
    rw [computeIfAbsent_none entry]
    let grown : ServiceState B := { service with wrappers := (service.wrappers.alloc .new).2 }
    have same : SameErrors service (grown.changeCallbacks client (·.insert command.key service.wrappers.next)) :=
      (⟨fun _ => rfl, rfl⟩ : SameErrors service grown).trans sameErrors_changeCallbacks
    have own (key : Int32 × Int32) :
        (grown.changeCallbacks client (·.insert command.key service.wrappers.next)).wrapperOf client key =
          if command.key = key then some service.wrappers.next else service.wrapperOf client key := wrapperOf_insert
    have others (other : Nat) (key : Int32 × Int32) (different : other ≠ client) :
        (grown.changeCallbacks client (·.insert command.key service.wrappers.next)).wrapperOf other key =
          service.wrapperOf other key := wrapperOf_changeCallbacks_ne different
    -- a wrapper is the new one of this command, or it was there before
    have known (other : Nat) (key : Int32 × Int32) (wrapper : Nat)
        (found : (grown.changeCallbacks client (·.insert command.key service.wrappers.next)).wrapperOf other key =
          some wrapper) :
        wrapper = service.wrappers.next ∧ other = client ∨ service.wrapperOf other key = some wrapper := by
      by_cases same : other = client
      · subst same
        rw [own] at found
        split at found
        · exact .inl ⟨(Option.some.inj found).symm, rfl⟩
        · exact .inr found
      · exact .inr (others other key same ▸ found)
    refine ⟨?_, same, (own command.key).trans (if_pos rfl)⟩
    have pids : (grown.changeCallbacks client (·.insert command.key service.wrappers.next)).pid = service.pid :=
      funext fun _ => pid_changeCallbacks
    have errors := referenced.errors_fewer (fun other _ found => (same.errors other).symm.trans found) le_rfl
    obtain ⟨once, listed, gone, -, wrappers, subscribed⟩ := referenced
    refine ⟨?_, listed, gone, errors, fun other key wrapper found => ?_, fun pid wanted wrapper found => ?_⟩
    · rw [pids]
      exact once
    · rcases known other key wrapper found with ⟨rfl, rfl⟩ | before
      · refine ⟨Nat.lt_succ_self _, fun another key here => ?_⟩
        rcases known another key _ here with ⟨-, mine⟩ | before
        · exact mine
        · exact absurd (wrappers another key _ before).1 (Nat.lt_irrefl _)
      · refine ⟨Nat.lt_succ_of_lt (wrappers other key wrapper before).1, fun another key' here => ?_⟩
        rcases known another key' wrapper here with ⟨rfl, -⟩ | there
        · exact absurd (wrappers other key _ before).1 (Nat.lt_irrefl _)
        · exact (wrappers other key wrapper before).2 another key' there
    · obtain ⟨other, there, mine, kept⟩ := subscribed pid wanted wrapper found
      refine ⟨other, there, (congrFun pids other).trans mine, ?_⟩
      by_cases itself : other = client
      · subst itself
        refine (own (widen wanted)).trans ((if_neg ?_).trans kept)
        intro key
        rw [key, kept] at entry
        cases entry
      · exact (others other (widen wanted) itself).trans kept

theorem addListener_referenced (referenced : Referenced service) (member : client ∈ service.mClients)
    (valid : command.isValid = true) :
    Outcome (fun after => Referenced after ∧ SameErrors service after) (fun _ => True)
      (service.addListener client command listener) := by
  obtain ⟨kept, same, own⟩ := @computeIfAbsent_referenced _ _ _ client command referenced
  have listed : (service.computeIfAbsent client command).2.mClients = service.mClients :=
    computeIfAbsent_touches.1.mClients
  rw [addListener]
  generalize service.computeIfAbsent client command = result at kept same own listed ⊢
  obtain ⟨wrapper, middle⟩ := result
  dsimp only at kept same own listed ⊢
  have put : Referenced (middle.put wrapper listener) := kept.heaps rfl le_rfl
  split
  · refine call_refers.imp ?_
    rintro after ⟨native, journal, rfl, entries, callbacks⟩
    refine ⟨?_, same.trans ⟨fun _ => rfl, entries⟩⟩
    refine { put with subscribed := fun process wanted found called => ?_ }
    rw [callbacks] at called
    split at called
    · rename_i mine
      cases before : (middle.put wrapper listener).native.callbackOf process wanted with
      | some callback =>
        rw [before, Option.getD_some] at called
        exact put.subscribed _ _ _ (before.trans called)
      | none =>
        rw [before, Option.getD_none] at called
        obtain rfl := NativeCallback.onCommand.inj (Option.some.inj (Option.some.inj called))
        refine ⟨client, listed.symm ▸ member, mine.1.symm, ?_⟩
        rw [mine.2, widen_narrow valid]
        exact own
    · exact put.subscribed process wanted found called
  · exact ⟨put, same.errors, same.entries⟩

/-- A wrapper may go when its command is not subscribed to any more. -/
theorem Referenced.erased (referenced : Referenced service)
    (unsubscribed : ∀ command wrapper, widen command = key →
      service.native.callbackOf (service.pid client) command ≠ some (some (.onCommand wrapper))) :
    Referenced (service.changeCallbacks client (·.erase key)) := by
  have pids : (service.changeCallbacks client (·.erase key)).pid = service.pid := funext fun _ => pid_changeCallbacks
  have same : SameErrors service (service.changeCallbacks client (·.erase key)) := sameErrors_changeCallbacks
  have fewer (other : Nat) (another : Int32 × Int32) (wrapper : Nat)
      (found : (service.changeCallbacks client (·.erase key)).wrapperOf other another = some wrapper) :
      service.wrapperOf other another = some wrapper := by
    by_cases itself : other = client
    · subst itself
      rw [wrapperOf_erase] at found
      split at found
      · cases found
      · exact found
    · exact (wrapperOf_changeCallbacks_ne itself).symm.trans found
  have errors := referenced.errors_fewer (fun other _ found => (same.errors other).symm.trans found) le_rfl
  have wrappers := referenced.wrappers_fewer fewer le_rfl
  refine ⟨?_, referenced.listed, referenced.gone, errors, wrappers, fun process command wrapper found => ?_⟩
  · rw [pids]
    exact referenced.once
  · obtain ⟨other, there, mine, kept⟩ := referenced.subscribed process command wrapper found
    refine ⟨other, there, (congrFun pids other).trans mine, ?_⟩
    by_cases itself : other = client
    · subst itself
      rw [wrapperOf_erase, if_neg fun same => unsubscribed command wrapper same.symm (mine.symm ▸ found)]
      exact kept
    · exact (wrapperOf_changeCallbacks_ne itself).trans kept

/-- Neither the subscription nor the wrapper of its command is left. -/
theorem removeListener_referenced (referenced : Referenced service) :
    Outcome (fun result => Referenced result.2 ∧ SameErrors service result.2) (fun _ => True)
      (service.removeListener client command listener) := by
  rw [removeListener]
  split
  · rename_i wrapper found
    have removed : Referenced (service.remove wrapper listener) := referenced.heaps rfl le_rfl
    dsimp only
    split
    · refine call_refers.bind ?_
      rintro after ⟨native, journal, rfl, entries, callbacks⟩
      have called : SameErrors service { service.remove wrapper listener with native, journal } :=
        ⟨fun _ => rfl, entries⟩
      have same := called.trans (@sameErrors_changeCallbacks _ _ _ client (·.erase command.key))
      refine ⟨Referenced.erased (removed.native ?_) ?_, same⟩
      · intro process wanted kept called
        rw [callbacks] at called
        split at called
        · cases called
        · exact called
      · intro wanted kept same called
        refine Option.some_ne_none _ (called.symm.trans ((callbacks _ wanted).trans (if_pos ⟨rfl, ?_⟩)))
        rw [← narrow_widen wanted, same]
        rfl
    · exact ⟨removed, fun _ => rfl, rfl⟩
  · exact ⟨referenced, .refl⟩

theorem send_referenced (referenced : Referenced service) :
    Outcome (fun after => Referenced after ∧ SameErrors service after) (fun _ => True)
      (service.send client command) := by
  refine call_refers.imp ?_
  rintro after ⟨native, journal, rfl, entries, callbacks⟩
  exact ⟨referenced.native fun pid command wrapper found => (callbacks pid command).symm.trans found,
    fun _ => rfl, entries⟩

theorem newErrorWrapper_referenced (referenced : Referenced service) {callback : Option B} :
    Referenced (service.newErrorWrapper callback).2 ∧ SameErrors service (service.newErrorWrapper callback).2 ∧
      ∀ wrapper, (service.newErrorWrapper callback).1 = some wrapper →
        wrapper < (service.newErrorWrapper callback).2.errorWrappers.next ∧
        ∀ other, (service.client other).mErrorCallback ≠ some wrapper := by
  cases callback with
  | none => exact ⟨referenced, .refl, fun wrapper found => absurd found (Option.some_ne_none wrapper).symm⟩
  | some listener =>
    refine ⟨referenced.heaps rfl (Nat.le_succ _), ⟨fun _ => rfl, rfl⟩, fun wrapper found => ?_⟩
    obtain rfl := Option.some.inj found
    exact ⟨Nat.lt_succ_self _, fun other known => Nat.lt_irrefl _ (referenced.errors other _ known).1⟩

def withError (service : ServiceState B) (client : Nat) (callback : Option Nat) : ServiceState B :=
  { service with
    clients := service.clients.modify client fun object => { object with mErrorCallback := callback } }

section
variable {callback : Option Nat}

theorem wrapperOf_withError :
    (service.withError client callback).wrapperOf other key = service.wrapperOf other key := by
  unfold wrapperOf ServiceState.client withError
  dsimp only
  refine congrArg (·[key]?) (?_ : _ = _)
  exact Heap.modify_keeps Client.mCallbacks fun _ => rfl

theorem pid_withError : (service.withError client callback).pid = service.pid := by
  funext other
  unfold ServiceState.pid ServiceState.client withError
  dsimp only
  exact Heap.modify_keeps Client.mPid fun _ => rfl

theorem error_withError : ((service.withError client callback).client client).mErrorCallback = callback := by
  unfold ServiceState.client withError
  dsimp only
  rw [Heap.get_modify]

theorem error_withError_ne (different : other ≠ client) :
    ((service.withError client callback).client other).mErrorCallback = (service.client other).mErrorCallback := by
  unfold ServiceState.client withError
  dsimp only
  rw [Heap.get_modify_ne different]

end

/-- A wrapper that nobody has may become the error callback of a client. -/
theorem Referenced.setError (referenced : Referenced service) {callback : Option Nat}
    (fresh : ∀ wrapper, callback = some wrapper → wrapper < service.errorWrappers.next ∧
      ∀ other, (service.client other).mErrorCallback ≠ some wrapper) :
    Referenced (service.withError client callback) := by
  have kept := @Referenced.wrappers_fewer _ _ service (service.withError client callback) referenced
    (fun _ _ _ found => wrapperOf_withError.symm.trans found) le_rfl
  obtain ⟨once, listed, gone, errors, -, subscribed⟩ := referenced
  refine ⟨?_, listed, gone, fun other wrapper found => ?_, kept, fun process command wrapper found => ?_⟩
  · rw [pid_withError]
    exact once
  · by_cases itself : other = client
    · subst itself
      rw [error_withError] at found
      refine ⟨(fresh wrapper found).1, fun another here => Decidable.byContradiction fun different => ?_⟩
      rw [error_withError_ne different] at here
      exact (fresh wrapper found).2 another here
    · rw [error_withError_ne itself] at found
      refine ⟨(errors other wrapper found).1, fun another here => ?_⟩
      by_cases same : another = client
      · subst same
        rw [error_withError] at here
        exact absurd found ((fresh wrapper here).2 other)
      · rw [error_withError_ne same] at here
        exact (errors other wrapper found).2 another here
  · obtain ⟨other, there, mine, kept⟩ := subscribed process command wrapper found
    exact ⟨other, there, (congrFun pid_withError other).trans mine, wrapperOf_withError.trans kept⟩

theorem destroyErrorWrapper_referenced (referenced : Referenced service) {old : Option Nat} :
    Referenced (service.destroyErrorWrapper old) ∧ SameErrors service (service.destroyErrorWrapper old) ∧
      (service.destroyErrorWrapper old).errorWrappers.next = service.errorWrappers.next := by
  cases old with
  | none => exact ⟨referenced, .refl, rfl⟩
  | some wrapper => exact ⟨referenced.heaps rfl le_rfl, ⟨fun _ => rfl, rfl⟩, rfl⟩

theorem setErrorCallback_referenced (referenced : Referenced service) {callback : Option B} :
    Outcome (fun after => Referenced after ∧ ∃ wrapper, SetsError client wrapper service after) (fun _ => True)
      (service.setErrorCallback client callback) := by
  obtain ⟨made, same, fresh⟩ := @newErrorWrapper_referenced _ _ service referenced callback
  have pids : (service.newErrorWrapper callback).2.pid = service.pid :=
    funext (@newErrorWrapper_touches _ _ service client callback).1.pid
  rw [setErrorCallback]
  generalize service.newErrorWrapper callback = result at made same fresh pids ⊢
  obtain ⟨wrapper, middle⟩ := result
  dsimp only at made same fresh pids ⊢
  refine call_refers.bind ?_
  rintro after ⟨native, journal, rfl, entries, callbacks⟩
  have called : Referenced { middle with native, journal } :=
    made.native fun process command found known => (callbacks process command).symm.trans known
  obtain ⟨killed, left, next⟩ :=
    @destroyErrorWrapper_referenced _ _ _ called
      (ServiceState.client { middle with native, journal } client).mErrorCallback
  generalize (@destroyErrorWrapper B _ _ _) = freed at killed left next ⊢
  have before (other : Nat) : (freed.client other).mErrorCallback = (service.client other).mErrorCallback :=
    (left.errors other).trans (same.errors other)
  refine ⟨killed.setError fun found here => ?_, wrapper, error_withError, fun other different => ?_, ?_⟩
  · refine ⟨(fresh found here).1.trans_eq next.symm, fun other known => (fresh found here).2 other ?_⟩
    exact (before other).symm.trans known
  · exact (error_withError_ne different).trans (before other)
  · refine left.entries.trans (entries.trans ?_)
    rw [pids, same.entries]

theorem createClient_refers {recipient : ClientDeathObserver} :
    (service.createClient pid binder recipient).2.native = service.native.create pid ∧
      (service.createClient pid binder recipient).2.wrappers = service.wrappers ∧
      (service.createClient pid binder recipient).2.errorWrappers = service.errorWrappers := by
  rw [createClient]
  dsimp only
  split <;> exact ⟨rfl, rfl, rfl⟩

theorem createClient_referenced (referenced : Referenced service)
    (new : ∀ client ∈ service.mClients, service.pid client ≠ pid)
    {recipient : ClientDeathObserver} : Referenced (service.createClient pid binder recipient).2 := by
  have creates := @createClient_creates _ _ service pid binder recipient
  obtain ⟨native, wrappersSame, errorsSame⟩ := @createClient_refers _ _ service binder pid recipient
  generalize (service.createClient pid binder recipient).2 = after at creates native wrappersSame errorsSame ⊢
  have blank (other : Nat) (wrapper : Nat) (found : (after.client other).mErrorCallback = some wrapper) :
      (service.client other).mErrorCallback = some wrapper := by
    by_cases newest : other = service.clients.next
    · rw [newest, creates.newest] at found
      cases found
    · rwa [creates.older other newest] at found
  have keys (other : Nat) (key : Int32 × Int32) (wrapper : Nat) (found : after.wrapperOf other key = some wrapper) :
      service.wrapperOf other key = some wrapper := by
    by_cases newest : other = service.clients.next
    · rw [wrapperOf, newest, creates.newest] at found
      simp at found
    · rwa [wrapperOf, creates.older other newest] at found
  have errors := referenced.errors_fewer blank (congrArg Heap.next errorsSame).ge
  have wrappers := referenced.wrappers_fewer keys (congrArg Heap.next wrappersSame).ge
  obtain ⟨once, listed, gone, -, -, subscribed⟩ := referenced
  refine ⟨creates.once (fun other there => (listed other there).1) new once, fun other here => ?_, fun other dead => ?_,
    errors, wrappers, fun process command wrapper found => ?_⟩
  · rw [creates.next, creates.destroyed]
    rcases creates.mem.mp here with there | rfl
    · exact ⟨Nat.lt_succ_of_lt (listed other there).1, (listed other there).2⟩
    · exact ⟨Nat.lt_succ_self _, fun dead => Nat.lt_irrefl _ (gone _ dead)⟩
  · rw [creates.destroyed] at dead
    rw [creates.next]
    exact Nat.lt_succ_of_lt (gone other dead)
  · rw [native, NativeClients.callbackOf_create] at found
    obtain ⟨other, there, mine, kept⟩ := subscribed process command wrapper found
    have older : other ≠ service.clients.next := Nat.ne_of_lt (listed other there).1
    refine ⟨other, creates.mem.mpr (.inl there), ?_, ?_⟩
    · rw [ServiceState.pid, creates.older other older]
      exact mine
    · rw [wrapperOf, creates.older other older]
      exact kept

theorem destroyClient_refers :
    Outcome (fun after => after.native.gErrorCallbacks = service.native.gErrorCallbacks ∧
      (∀ other command, after.native.callbackOf other command =
        if other = service.pid client then none else service.native.callbackOf other command) ∧
      after.wrappers = service.wrappers ∧ after.errorWrappers = service.errorWrappers)
      (fun _ => True) (service.destroyClient (some client)) := by
  rw [destroyClient]
  cases (service.client client).mBinder with
  | none => exact trivial
  | some binder =>
    dsimp only
    cases service.mDeathObservers[binder]? with
    | none => exact trivial
    | some recipient =>
      refine (unlinkToDeath_links.fault fun _ _ => trivial).bind fun unlinked leaves => ?_
      subst leaves
      refine call_refers.bind ?_
      rintro after ⟨native, journal, rfl, entries, callbacks⟩
      exact ⟨entries, callbacks, rfl, rfl⟩

theorem destroyClient_referenced (referenced : Referenced service) (member : client ∈ service.mClients) :
    Outcome Referenced (fun _ => True) (service.destroyClient (some client)) := by
  refine ((destroyClient_destroys.fault fun _ _ => trivial).and destroyClient_refers).imp ?_
  rintro after ⟨⟨binder, recipient, destroys⟩, -, callbacks, wrappersSame, errorsSame⟩
  have same (other : Nat) : after.client other = service.client other := by
    rw [ServiceState.client, destroys.clients]
    rfl
  have sameWrappers (other : Nat) (key : Int32 × Int32) : after.wrapperOf other key = service.wrapperOf other key := by
    rw [wrapperOf, same]
    rfl
  have errors := referenced.errors_fewer
    (fun other _ found => (congrArg Client.mErrorCallback (same other)).symm.trans found)
    (congrArg Heap.next errorsSame).ge
  have wrappers := referenced.wrappers_fewer (fun other key _ found => (sameWrappers other key).symm.trans found)
    (congrArg Heap.next wrappersSame).ge
  obtain ⟨once, listed, gone, -, -, subscribed⟩ := referenced
  refine ⟨destroys.once once, fun other here => ?_, fun other dead => ?_, errors, wrappers,
    fun process command wrapper found => ?_⟩
  · obtain ⟨different, there⟩ := (destroys.mem once).mp here
    rw [destroys.clients, destroys.destroyed, List.mem_append, List.mem_singleton]
    exact ⟨(listed other there).1, fun dead => dead.elim (listed other there).2 different⟩
  · rw [destroys.destroyed, List.mem_append, List.mem_singleton] at dead
    rw [destroys.clients]
    rcases dead with dead | rfl
    · exact gone other dead
    · exact (listed other member).1
  · rw [callbacks] at found
    split at found
    · cases found
    · rename_i alive
      obtain ⟨other, there, mine, kept⟩ := subscribed process command wrapper found
      refine ⟨other, (destroys.mem once).mpr ⟨?_, there⟩, ?_, ?_⟩
      · rintro rfl
        exact alive mine.symm
      · rw [destroys.pid]
        exact mine
      · exact (sameWrappers other _).trans kept

theorem Referenced.dies (referenced : Referenced service) : Referenced (service.dies binder) :=
  ⟨referenced.once, referenced.listed, referenced.gone, referenced.errors, referenced.wrappers, referenced.subscribed⟩

end ServiceState
end CpuCom.Service
