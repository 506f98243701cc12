import CpuCom.Proofs.NativeReferences
import CpuCom.Service.Executor

/-! What keeps a listener connected. What the native part calls for the commands of a
process are the wrappers of its client, and a listener that was added to one stays
there until it is removed, it dies, or the client is destroyed. -/

namespace CpuCom.Service
open Interaction

variable {B : Type} [LinearOrder B]

namespace ServiceState

/-- Every wrapper of a client of the list is the callback of its command. -/
structure Wired (service : ServiceState B) : Prop where
  referenced : Referenced service
  apart : ∀ client key other wrapper, service.wrapperOf client key = some wrapper →
    service.wrapperOf client other = some wrapper → key = other
  bytes : ∀ client key wrapper, service.wrapperOf client key = some wrapper → ∃ command, key = widen command
  unkilled : ∀ wrapper, (service.wrapper wrapper).killed = false
  callbacks : ∀ pid command callback, service.native.callbackOf pid command = some callback →
    ∃ wrapper, callback = some (.onCommand wrapper)
  mirrored : ∀ client ∈ service.mClients, ∀ command wrapper, service.wrapperOf client (widen command) = some wrapper →
    service.native.callbackOf (service.pid client) command = some (some (.onCommand wrapper))

def Listens (service : ServiceState B) (pid : Int) (command : Uart.CpuCommand) (listener : B) (wrapper : Nat) : Prop :=
  ∃ client ∈ service.mClients, service.pid client = pid ∧ service.wrapperOf client (widen command) = some wrapper ∧
    listener ∈ (service.wrapper wrapper).callbacks

/-- Neither the wrappers nor what is called have changed. -/
structure Beside (before after : ServiceState B) : Prop where
  wrapperOf : ∀ client key, after.wrapperOf client key = before.wrapperOf client key
  wrappers : after.wrappers = before.wrappers
  callbackOf : ∀ pid command, after.native.callbackOf pid command = before.native.callbackOf pid command

variable {service before middle after : ServiceState B} {client other wrapper found : Nat} {command : CpuCommand}
  {wanted : Uart.CpuCommand} {listener who binder : B} {pid process : Int}

theorem Beside.refl : Beside service service := ⟨fun _ _ => rfl, rfl, fun _ _ => rfl⟩

theorem Beside.trans (first : Beside before middle) (last : Beside middle after) : Beside before after :=
  ⟨fun client key => (last.wrapperOf client key).trans (first.wrapperOf client key), last.wrappers.trans first.wrappers,
    fun pid command => (last.callbackOf pid command).trans (first.callbackOf pid command)⟩

theorem Wired.beside (wired : Wired before) (beside : Beside before after) (referenced : Referenced after)
    (mClients : after.mClients = before.mClients) (pids : after.pid = before.pid) : Wired after := by
  have lists (wrapper : Nat) : after.wrapper wrapper = before.wrapper wrapper :=
    congrArg (Heap.get · wrapper) beside.wrappers
  refine ⟨referenced, fun client key other wrapper first second => ?_, fun client key wrapper found => ?_,
    fun wrapper => ?_, fun pid command callback found => ?_, fun client there command wrapper found => ?_⟩
  · rw [beside.wrapperOf] at first second
    exact wired.apart client key other wrapper first second
  · rw [beside.wrapperOf] at found
    exact wired.bytes client key wrapper found
  · rw [lists]
    exact wired.unkilled wrapper
  · rw [beside.callbackOf] at found
    exact wired.callbacks pid command callback found
  · rw [beside.wrapperOf] at found
    rw [beside.callbackOf, pids]
    exact wired.mirrored client (mClients ▸ there) command wrapper found

theorem Listens.beside (listens : Listens before pid wanted listener wrapper) (beside : Beside before after)
    (mClients : after.mClients = before.mClients) (pids : after.pid = before.pid) :
    Listens after pid wanted listener wrapper := by
  obtain ⟨client, there, mine, kept, member⟩ := listens
  refine ⟨client, mClients ▸ there, (congrFun pids client).trans mine, (beside.wrapperOf ..).trans kept, ?_⟩
  rw [ServiceState.wrapper, beside.wrappers]
  exact member

theorem Wired.unique (wired : Wired service) (first : client ∈ service.mClients) (second : other ∈ service.mClients)
    (same : service.pid client = service.pid other) : client = other :=
  List.inj_on_of_nodup_map wired.referenced.once first second same

theorem Wired.called (wired : Wired service) (member : client ∈ service.mClients) {callback : Option NativeCallback}
    (called : service.native.callbackOf (service.pid client) wanted = some callback) :
    ∃ wrapper, callback = some (.onCommand wrapper) ∧ service.wrapperOf client (widen wanted) = some wrapper := by
  obtain ⟨wrapper, rfl⟩ := wired.callbacks _ _ _ called
  obtain ⟨other, there, same, kept⟩ := wired.referenced.subscribed _ _ _ called
  obtain rfl := wired.unique there member same
  exact ⟨wrapper, rfl, kept⟩

theorem send_beside : Outcome (Beside service) (fun _ => True) (service.send client command) := by
  refine call_refers.imp ?_
  rintro after ⟨native, journal, rfl, -, callbacks⟩
  exact ⟨fun _ _ => rfl, rfl, callbacks⟩

theorem setErrorCallback_beside {callback : Option B} :
    Outcome (Beside service) (fun _ => True) (service.setErrorCallback client callback) := by
  have made : Beside service (service.newErrorWrapper callback).2 := by
    cases callback with
    | none => exact .refl
    | some listener => exact ⟨fun _ _ => rfl, rfl, fun _ _ => rfl⟩
  have freed (state : ServiceState B) (old : Option Nat) : Beside state (state.destroyErrorWrapper old) := by
    cases old with
    | none => exact .refl
    | some wrapper => exact ⟨fun _ _ => rfl, rfl, fun _ _ => rfl⟩
  have written (state : ServiceState B) (wrapper : Option Nat) : Beside state (state.withError client wrapper) :=
    ⟨fun _ _ => wrapperOf_withError, rfl, fun _ _ => rfl⟩
  rw [setErrorCallback]
  generalize service.newErrorWrapper callback = result at made ⊢
  obtain ⟨wrapper, middle⟩ := result
  dsimp only at made ⊢
  refine call_refers.bind ?_
  rintro after ⟨native, journal, rfl, -, callbacks⟩
  have called : Beside middle { middle with native, journal } := ⟨fun _ _ => rfl, rfl, callbacks⟩
  exact made.trans (called.trans ((freed _ _).trans (written _ wrapper)))

/-- The tables stay wired, and the listener listens as before. -/
def Kept (pid : Int) (wanted : Uart.CpuCommand) (listener : B) (wrapper : Nat) (before after : ServiceState B) : Prop :=
  Wired after ∧ (Listens before pid wanted listener wrapper → Listens after pid wanted listener wrapper)

theorem Kept.refl (wired : Wired service) : Kept pid wanted listener wrapper service service := ⟨wired, id⟩

theorem Kept.trans (first : Kept pid wanted listener wrapper before middle)
    (last : Kept pid wanted listener wrapper middle after) : Kept pid wanted listener wrapper before after :=
  ⟨last.1, last.2 ∘ first.2⟩

theorem Kept.of_beside (wired : Wired before) (beside : Beside before after) (referenced : Referenced after)
    (mClients : after.mClients = before.mClients) (pids : after.pid = before.pid) :
    Kept pid wanted listener wrapper before after :=
  ⟨wired.beside beside referenced mClients pids, fun listens => listens.beside beside mClients pids⟩

theorem Wired.lists (wired : Wired service) {wrappers : Heap (RemoteCallbackList B)}
    (same : wrappers.next = service.wrappers.next) (unkilled : ∀ wrapper, (wrappers.get wrapper).killed = false) :
    Wired { service with wrappers } :=
  ⟨wired.referenced.heaps same le_rfl, wired.apart, wired.bytes, unkilled, wired.callbacks, wired.mirrored⟩

theorem put_wired (wired : Wired service) : Kept pid wanted listener wrapper service (service.put found who) := by
  have unkilled (other : Nat) : ((service.put found who).wrapper other).killed = false :=
    (Heap.modify_keeps RemoteCallbackList.killed fun _ => RemoteCallbackList.killed_register).trans (wired.unkilled other)
  refine ⟨wired.lists rfl unkilled, ?_⟩
  rintro ⟨client, there, mine, kept, member⟩
  refine ⟨client, there, mine, kept, ?_⟩
  rw [ServiceState.wrapper, put, changeWrapper]
  dsimp only
  by_cases same : wrapper = found
  · subst same
    rw [Heap.get_modify]
    exact (RemoteCallbackList.mem_register (wired.unkilled wrapper)).mpr (.inl member)
  · rw [Heap.get_modify_ne same]
    exact member

theorem addListener_known (wired : Wired service) (member : client ∈ service.mClients) (valid : command.isValid = true)
    (entry : service.wrapperOf client command.key = some found) :
    Outcome (Beside (service.put found who)) (fun _ => True) (service.addListener client command who) := by
  rw [addListener, computeIfAbsent_some entry]
  dsimp only
  split
  · refine call_refers.imp ?_
    rintro after ⟨native, journal, rfl, -, callbacks⟩
    refine ⟨fun _ _ => rfl, rfl, fun process other => (callbacks process other).trans ?_⟩
    split
    · rename_i mine
      obtain ⟨rfl, rfl⟩ := mine
      have called := wired.mirrored client member (narrow command.cmd command.subCmd) found (by
        rw [widen_narrow valid]
        exact entry)
      change some ((service.native.callbackOf (service.pid client) _).getD _) = _
      rw [called]
      exact called.symm
    · rfl
  · exact .refl

theorem addListener_new (wired : Wired service) (member : client ∈ service.mClients) (valid : command.isValid = true)
    (missing : service.wrapperOf client command.key = none) :
    Outcome (fun after =>
      (∀ other key, after.wrapperOf other key =
        if other = client ∧ command.key = key then some service.wrappers.next else service.wrapperOf other key) ∧
      after.wrappers = (service.wrappers.alloc .new).2.modify service.wrappers.next
        (·.register (service.isBinderAlive who) who) ∧
      ∀ process other, after.native.callbackOf process other =
        if process = service.pid client ∧ other = narrow command.cmd command.subCmd then
          some (some (.onCommand service.wrappers.next)) else service.native.callbackOf process other)
      (fun _ => True) (service.addListener client command who) := by
  let grown : ServiceState B := { service with wrappers := (service.wrappers.alloc .new).2 }
  have newest : ((grown.changeCallbacks client (·.insert command.key service.wrappers.next)).wrapper
      service.wrappers.next).isEmpty = true := congrArg RemoteCallbackList.isEmpty Heap.get_alloc
  have own : (grown.changeCallbacks client (·.insert command.key service.wrappers.next)).pid client =
      service.pid client := pid_changeCallbacks
  have uncalled : service.native.callbackOf (service.pid client) (narrow command.cmd command.subCmd) = none := by
    cases called : service.native.callbackOf (service.pid client) (narrow command.cmd command.subCmd) with
    | none => rfl
    | some callback =>
      obtain ⟨wrapper, -, kept⟩ := wired.called member called
      rw [widen_narrow valid] at kept
      exact absurd (missing.symm.trans kept) (Option.some_ne_none wrapper).symm
  rw [addListener, computeIfAbsent_none missing]
  dsimp only
  rw [newest]
  refine call_refers.imp ?_
  rintro after ⟨native, journal, rfl, -, callbacks⟩
  refine ⟨fun other key => ?_, rfl, fun process other => (callbacks process other).trans ?_⟩
  · change (grown.changeCallbacks client (·.insert command.key service.wrappers.next)).wrapperOf other key = _
    by_cases same : other = client
    · subst same
      rw [wrapperOf_insert]
      simp only [true_and]
      rfl
    · rw [wrapperOf_changeCallbacks_ne same, if_neg fun both => same both.1]
      rfl
  · change (if process = (grown.changeCallbacks client (·.insert command.key service.wrappers.next)).pid client ∧
      other = narrow command.cmd command.subCmd then some ((service.native.callbackOf process other).getD _)
      else service.native.callbackOf process other) = _
    rw [own]
    split
    · rename_i mine
      obtain ⟨rfl, rfl⟩ := mine
      rw [uncalled]
      rfl
    · rfl

theorem addListener_wired (wired : Wired service) (member : client ∈ service.mClients)
    (valid : command.isValid = true) :
    Outcome (Kept pid wanted listener wrapper service) (fun _ => True) (service.addListener client command who) := by
  cases entry : service.wrapperOf client command.key with
  | some found =>
    refine (((addListener_touches.fault fun _ _ => trivial).and
      (addListener_referenced wired.referenced member valid)).and
      (addListener_known wired member valid entry)).imp ?_
    rintro after ⟨⟨⟨touches, -⟩, referenced, -⟩, beside⟩
    have put : Kept pid wanted listener wrapper service (service.put found who) := put_wired wired
    exact put.trans (.of_beside put.1 beside referenced touches.mClients (funext touches.pid))
  | none =>
    refine (((addListener_touches.fault fun _ _ => trivial).and
      (addListener_referenced wired.referenced member valid)).and
      (addListener_new wired member valid entry)).imp ?_
    rintro after ⟨⟨⟨touches, -⟩, referenced, -⟩, wrappers, heap, callbacks⟩
    have allocated := wired.referenced.wrappers
    -- a wrapper is the new one of this command, or it was there before
    have known (other : Nat) (key : Int32 × Int32) (wrapper : Nat) (kept : after.wrapperOf other key = some wrapper) :
        wrapper = service.wrappers.next ∧ other = client ∧ command.key = key ∨
          service.wrapperOf other key = some wrapper := by
      rw [wrappers] at kept
      split at kept
      · rename_i mine
        exact .inl ⟨(Option.some.inj kept).symm, mine⟩
      · exact .inr kept
    refine ⟨⟨referenced, fun other key another wrapper first second => ?_, fun other key wrapper kept => ?_,
      fun wrapper => ?_, fun process other callback called => ?_, fun other there wish wrapper kept => ?_⟩, ?_⟩
    · rcases known other key wrapper first with ⟨rfl, rfl, rfl⟩ | old
      · rcases known other another _ second with ⟨-, -, same⟩ | old
        · exact same
        · exact absurd (allocated other another _ old).1 (Nat.lt_irrefl _)
      · rcases known other another wrapper second with ⟨rfl, -, -⟩ | older
        · exact absurd (allocated other key _ old).1 (Nat.lt_irrefl _)
        · exact wired.apart other key another wrapper old older
    · rcases known other key wrapper kept with ⟨-, -, rfl⟩ | old
      · exact ⟨narrow command.cmd command.subCmd, (widen_narrow valid).symm⟩
      · exact wired.bytes other key wrapper old
    · rw [ServiceState.wrapper, heap]
      refine (Heap.modify_keeps RemoteCallbackList.killed fun _ => RemoteCallbackList.killed_register).trans ?_
      by_cases newest : wrapper = service.wrappers.next
      · rw [newest, Heap.get_alloc]
        rfl
      · rw [Heap.get_alloc_ne newest]
        exact wired.unkilled wrapper
    · rw [callbacks] at called
      split at called
      · exact ⟨service.wrappers.next, (Option.some.inj called).symm⟩
      · exact wired.callbacks process other callback called
    · rw [touches.mClients] at there
      rw [callbacks, touches.pid]
      rcases known other (widen wish) wrapper kept with ⟨rfl, rfl, same⟩ | old
      · rw [if_pos ⟨rfl, ((narrow_eq_iff valid).mpr same).symm⟩]
      · rw [if_neg]
        · exact wired.mirrored other there wish wrapper old
        · rintro ⟨same, rfl⟩
          obtain rfl := wired.unique there member same
          rw [widen_narrow valid] at old
          exact absurd (entry.symm.trans old) (Option.some_ne_none wrapper).symm
    · rintro ⟨other, there, mine, kept, listed⟩
      refine ⟨other, touches.mClients ▸ there, (touches.pid other).trans mine, ?_, ?_⟩
      · rw [wrappers, if_neg]
        · exact kept
        · rintro ⟨rfl, same⟩
          rw [← same] at kept
          exact absurd (entry.symm.trans kept) (Option.some_ne_none wrapper).symm
      · have older := Nat.ne_of_lt (allocated other _ wrapper kept).1
        rw [ServiceState.wrapper, heap, Heap.get_modify_ne older, Heap.get_alloc_ne older]
        exact listed

/-- Whoever is removed is not the listener, or it is removed from another wrapper. -/
theorem remove_wired (wired : Wired service) (member : client ∈ service.mClients)
    (entry : service.wrapperOf client command.key = some found)
    (spared : ¬ (service.pid client = pid ∧ command.key = widen wanted ∧ who = listener)) :
    Kept pid wanted listener wrapper service (service.remove found who) := by
  have same (list : RemoteCallbackList B) : (list.unregister who).killed = list.killed := rfl
  have unkilled (other : Nat) : ((service.remove found who).wrapper other).killed = false :=
    (Heap.modify_keeps RemoteCallbackList.killed same).trans (wired.unkilled other)
  refine ⟨wired.lists rfl unkilled, ?_⟩
  rintro ⟨other, there, mine, kept, listed⟩
  refine ⟨other, there, mine, kept, ?_⟩
  rw [ServiceState.wrapper, remove, changeWrapper]
  dsimp only
  by_cases same : wrapper = found
  · subst same
    obtain rfl := (wired.referenced.wrappers client _ wrapper entry).2 other _ kept
    rw [Heap.get_modify, RemoteCallbackList.mem_unregister]
    refine ⟨listed, ?_⟩
    rintro rfl
    exact spared ⟨mine, wired.apart other _ _ wrapper entry kept, rfl⟩
  · rw [Heap.get_modify_ne same]
    exact listed

theorem removeListener_erased (entry : service.wrapperOf client command.key = some found)
    (empty : ((service.remove found who).wrapper found).isEmpty = true) :
    Outcome (fun result =>
      (∀ other key, result.2.wrapperOf other key =
        if other = client ∧ command.key = key then none else service.wrapperOf other key) ∧
      result.2.wrappers = (service.remove found who).wrappers ∧
      ∀ process other, result.2.native.callbackOf process other =
        if process = service.pid client ∧ other = narrow command.cmd command.subCmd then none
        else service.native.callbackOf process other)
      (fun _ => True) (service.removeListener client command who) := by
  rw [removeListener, entry]
  dsimp only
  rw [if_pos empty]
  refine call_refers.bind ?_
  rintro after ⟨native, journal, rfl, -, callbacks⟩
  refine ⟨fun other key => ?_, rfl, callbacks⟩
  by_cases same : other = client
  · subst same
    change (changeCallbacks _ other (·.erase command.key)).wrapperOf other key = _
    rw [wrapperOf_erase]
    simp only [true_and]
    rfl
  · rw [if_neg fun both => same both.1]
    exact wrapperOf_changeCallbacks_ne same

theorem removeListener_wired (wired : Wired service) (member : client ∈ service.mClients)
    (spared : ¬ (service.pid client = pid ∧ command.key = widen wanted ∧ who = listener)) :
    Outcome (fun result => Kept pid wanted listener wrapper service result.2) (fun _ => True)
      (service.removeListener client command who) := by
  cases entry : service.wrapperOf client command.key with
  | none =>
    rw [removeListener, entry]
    exact Kept.refl wired
  | some found =>
    have removed : Kept pid wanted listener wrapper service (service.remove found who) :=
      remove_wired wired member entry spared
    by_cases empty : ((service.remove found who).wrapper found).isEmpty = true
    · refine (((removeListener_touches.fault fun _ _ => trivial).and (removeListener_referenced wired.referenced)).and
        (removeListener_erased entry empty)).imp ?_
      rintro ⟨answer, after⟩ ⟨⟨touches, referenced, -⟩, wrappers, heap, callbacks⟩
      dsimp only at touches referenced wrappers heap callbacks ⊢
      have fewer (other : Nat) (key : Int32 × Int32) (wrapper : Nat) (kept : after.wrapperOf other key = some wrapper) :
          service.wrapperOf other key = some wrapper ∧ ¬ (other = client ∧ command.key = key) := by
        rw [wrappers] at kept
        split at kept
        · cases kept
        · rename_i another
          exact ⟨kept, another⟩
      have lists (wrapper : Nat) : after.wrapper wrapper = (service.remove found who).wrapper wrapper :=
        congrArg (Heap.get · wrapper) heap
      refine ⟨⟨referenced, fun other key another wrapper first second => ?_, fun other key wrapper kept => ?_,
        fun wrapper => ?_, fun process other callback called => ?_, fun other there wish wrapper kept => ?_⟩, ?_⟩
      · exact wired.apart other key another wrapper (fewer other key wrapper first).1
          (fewer other another wrapper second).1
      · exact wired.bytes other key wrapper (fewer other key wrapper kept).1
      · rw [lists]
        exact removed.1.unkilled wrapper
      · rw [callbacks] at called
        split at called
        · cases called
        · exact wired.callbacks process other callback called
      · obtain ⟨old, another⟩ := fewer other (widen wish) wrapper kept
        rw [touches.mClients] at there
        rw [callbacks, touches.pid, if_neg]
        · exact wired.mirrored other there wish wrapper old
        · rintro ⟨same, rfl⟩
          obtain rfl := wired.unique there member same
          obtain ⟨byte, key⟩ := wired.bytes other command.key found entry
          have narrowed : narrow command.cmd command.subCmd = byte :=
            (congrArg (fun key => narrow key.1 key.2) key).trans (narrow_widen byte)
          exact another ⟨rfl, narrowed ▸ key⟩
      · intro listens
        obtain ⟨other, there, mine, kept, listed⟩ := removed.2 listens
        refine ⟨other, touches.mClients ▸ there, (touches.pid other).trans mine, ?_, (lists wrapper).symm ▸ listed⟩
        rw [wrappers, if_neg]
        · exact kept
        · rintro ⟨rfl, same⟩
          obtain rfl := Option.some.inj ((same ▸ entry).symm.trans kept)
          rw [RemoteCallbackList.isEmpty, RemoteCallbackList.getRegisteredCallbackCount] at empty
          have nobody := List.length_eq_zero_iff.mp (of_decide_eq_true empty)
          rw [nobody] at listed
          exact absurd listed List.not_mem_nil
    · rw [removeListener, entry]
      dsimp only
      rw [if_neg empty]
      exact removed

theorem send_wired (wired : Wired service) :
    Outcome (Kept pid wanted listener wrapper service) (fun _ => True) (service.send client command) := by
  refine (((send_touches.fault fun _ _ => trivial).and (send_referenced wired.referenced)).and send_beside).imp ?_
  rintro after ⟨⟨⟨touches, -⟩, referenced, -⟩, beside⟩
  exact .of_beside wired beside referenced touches.mClients (funext touches.pid)

theorem setErrorCallback_wired (wired : Wired service) {callback : Option B} :
    Outcome (fun after => Kept pid wanted listener wrapper service after ∧ after.mClients = service.mClients)
      (fun _ => True) (service.setErrorCallback client callback) := by
  refine (((setErrorCallback_touches.fault fun _ _ => trivial).and
    (setErrorCallback_referenced wired.referenced)).and setErrorCallback_beside).imp ?_
  rintro after ⟨⟨⟨touches, -⟩, referenced, -⟩, beside⟩
  exact ⟨.of_beside wired beside referenced touches.mClients (funext touches.pid), touches.mClients⟩

theorem destroyClient_wired (wired : Wired service) (member : client ∈ service.mClients)
    (another : Listens service pid wanted listener wrapper → service.pid client ≠ pid) :
    Outcome (Kept pid wanted listener wrapper service) (fun _ => True) (service.destroyClient (some client)) := by
  refine (((destroyClient_destroys.fault fun _ _ => trivial).and destroyClient_refers).and
    (destroyClient_referenced wired.referenced member)).imp ?_
  rintro after ⟨⟨⟨binder, recipient, destroys⟩, -, callbacks, heap, -⟩, referenced⟩
  have same (other : Nat) (key : Int32 × Int32) : after.wrapperOf other key = service.wrapperOf other key := by
    rw [wrapperOf, ServiceState.client, destroys.clients]
    rfl
  have lists (wrapper : Nat) : after.wrapper wrapper = service.wrapper wrapper := congrArg (Heap.get · wrapper) heap
  have listed (other : Nat) : other ∈ after.mClients ↔ other ≠ client ∧ other ∈ service.mClients :=
    destroys.mem wired.referenced.once
  refine ⟨⟨referenced, fun other key another wrapper first second => ?_, fun other key wrapper kept => ?_,
    fun wrapper => ?_, fun process other callback called => ?_, fun other there wish wrapper kept => ?_⟩, ?_⟩
  · rw [same] at first second
    exact wired.apart other key another wrapper first second
  · rw [same] at kept
    exact wired.bytes other key wrapper kept
  · rw [lists]
    exact wired.unkilled wrapper
  · rw [callbacks] at called
    split at called
    · cases called
    · exact wired.callbacks process other callback called
  · obtain ⟨different, there⟩ := (listed other).mp there
    rw [same] at kept
    rw [callbacks, destroys.pid, if_neg fun mine => different (wired.unique there member mine)]
    exact wired.mirrored other there wish wrapper kept
  · intro listens
    have different := another listens
    obtain ⟨other, there, mine, kept, inside⟩ := listens
    refine ⟨other, (listed other).mpr ⟨?_, there⟩, (congrFun destroys.pid other).trans mine, (same ..).trans kept,
      (lists wrapper).symm ▸ inside⟩
    rintro rfl
    exact different mine

theorem destroyUnused_wired (wired : Wired service) (member : client ∈ service.mClients) :
    Outcome (Kept pid wanted listener wrapper service) (fun _ => True) (service.destroyUnused client) := by
  rw [destroyUnused]
  cases alive : service.hasAliveRemoteCallbacks client with
  | true => exact Kept.refl wired
  | false =>
    rw [if_neg Bool.false_ne_true]
    refine destroyClient_wired wired member ?_
    rintro ⟨other, there, mine, kept, -⟩ own
    obtain rfl := wired.unique there member (mine.trans own.symm)
    exact absurd ((not_alive alive).2 (widen wanted)) (kept ▸ Option.some_ne_none wrapper)

theorem createClient_wired (wired : Wired service) (new : ∀ client ∈ service.mClients, service.pid client ≠ process)
    {recipient : ClientDeathObserver} :
    Kept pid wanted listener wrapper service (service.createClient process binder recipient).2 := by
  have creates := @createClient_creates _ _ service process binder recipient
  have referenced := @createClient_referenced _ _ service binder process wired.referenced new recipient
  obtain ⟨native, heap, -⟩ := @createClient_refers _ _ service binder process recipient
  generalize (service.createClient process binder recipient).2 = after at creates referenced native heap ⊢
  have lists (wrapper : Nat) : after.wrapper wrapper = service.wrapper wrapper := congrArg (Heap.get · wrapper) heap
  have callbacks (pid : Int) (other : Uart.CpuCommand) :
      after.native.callbackOf pid other = service.native.callbackOf pid other := by
    rw [native, NativeClients.callbackOf_create]
  have older (other : Nat) (there : other ∈ service.mClients) : after.client other = service.client other :=
    creates.older other (Nat.ne_of_lt (wired.referenced.listed other there).1)
  have keys (other : Nat) (key : Int32 × Int32) (wrapper : Nat) (kept : after.wrapperOf other key = some wrapper) :
      other ≠ service.clients.next ∧ service.wrapperOf other key = some wrapper := by
    by_cases newest : other = service.clients.next
    · rw [wrapperOf, newest, creates.newest] at kept
      simp at kept
    · rw [wrapperOf, creates.older other newest] at kept
      exact ⟨newest, kept⟩
  refine ⟨⟨referenced, fun other key another wrapper first second => ?_, fun other key wrapper kept => ?_,
    fun wrapper => ?_, fun process other callback called => ?_, fun other there wish wrapper kept => ?_⟩, ?_⟩
  · exact wired.apart other key another wrapper (keys other key wrapper first).2 (keys other another wrapper second).2
  · exact wired.bytes other key wrapper (keys other key wrapper kept).2
  · rw [lists]
    exact wired.unkilled wrapper
  · exact wired.callbacks process other callback ((callbacks process other).symm.trans called)
  · obtain ⟨old, kept⟩ := keys other (widen wish) wrapper kept
    have there := (creates.mem.mp there).resolve_right old
    rw [callbacks, ServiceState.pid, older other there]
    exact wired.mirrored other there wish wrapper kept
  · rintro ⟨other, there, mine, kept, inside⟩
    refine ⟨other, creates.mem.mpr (.inl there), ?_, ?_, (lists wrapper).symm ▸ inside⟩
    · rw [ServiceState.pid, older other there]
      exact mine
    · rw [wrapperOf, older other there]
      exact kept

theorem getOrCreateClient_wired (wired : Wired service) :
    Kept pid wanted listener wrapper service (service.getOrCreateClient process binder).2 ∧
      ∀ client, (service.getOrCreateClient process binder).1 = some client →
        client ∈ (service.getOrCreateClient process binder).2.mClients := by
  rw [getOrCreateClient]
  cases found : service.getClient process with
  | some client =>
    refine ⟨.refl wired, fun other same => ?_⟩
    obtain rfl := Option.some.inj same
    exact (getClient_some found).1
  | none =>
    refine ⟨createClient_wired wired (getClient_none found), fun client made => ?_⟩
    refine createClient_creates.mem.mpr (.inr ?_)
    dsimp only at made
    rw [createClient] at made
    dsimp only at made
    split at made
    · exact (Option.some.inj made).symm
    · cases made

theorem Wired.dies (wired : Wired service) : Wired (service.dies binder) :=
  ⟨wired.referenced.dies, wired.apart, wired.bytes, wired.unkilled, wired.callbacks, wired.mirrored⟩

theorem dies_wired (wired : Wired service) (another : binder ≠ listener) :
    Kept pid wanted listener wrapper service (service.dies binder) := by
  refine ⟨wired.dies, ?_⟩
  rintro ⟨client, there, mine, kept, member⟩
  exact ⟨client, there, mine, kept, RemoteCallbackList.mem_unregister.mpr ⟨member, another.symm⟩⟩

theorem initial_wired : Wired (initial : ServiceState B) := by
  have nothing (client : Nat) (key : Int32 × Int32) : (initial : ServiceState B).wrapperOf client key = none := by
    rw [wrapperOf, (initial_blank client).2]
    rfl
  refine ⟨initial_referenced, fun client key other wrapper found => ?_, fun client key wrapper found => ?_,
    fun _ => rfl, fun pid command callback found => ?_, fun client there command wrapper found => ?_⟩
  · exact absurd (nothing client key) (found ▸ Option.some_ne_none wrapper)
  · exact absurd (nothing client key) (found ▸ Option.some_ne_none wrapper)
  · change (NativeClients.initial.create anonymousClientPid).callbackOf pid command = _ at found
    rw [NativeClients.callbackOf_create] at found
    simp [NativeClients.callbackOf, NativeClients.initial] at found
  · exact absurd (nothing client _) (found ▸ Option.some_ne_none wrapper)

theorem addListener_listens (wired : Wired service) (member : client ∈ service.mClients)
    (valid : command.isValid = true) (key : command.key = widen wanted) (alive : who ∉ service.dead) :
    Outcome (fun after => ∃ wrapper, Listens after (service.pid client) wanted who wrapper) (fun _ => True)
      (service.addListener client command who) := by
  have living : service.isBinderAlive who = true := isBinderAlive_iff.mpr alive
  cases entry : service.wrapperOf client command.key with
  | some found =>
    refine ((addListener_touches.fault fun _ _ => trivial).and (addListener_known wired member valid entry)).imp ?_
    rintro after ⟨⟨touches, -⟩, beside⟩
    refine ⟨found, client, touches.mClients ▸ member, touches.pid client, ?_, ?_⟩
    · rw [← key]
      exact (beside.wrapperOf ..).trans entry
    · rw [ServiceState.wrapper, beside.wrappers, put, changeWrapper]
      dsimp only
      rw [Heap.get_modify]
      exact (RemoteCallbackList.mem_register (wired.unkilled found)).mpr (.inr ⟨rfl, living⟩)
  | none =>
    refine ((addListener_touches.fault fun _ _ => trivial).and (addListener_new wired member valid entry)).imp ?_
    rintro after ⟨⟨touches, -⟩, wrappers, heap, -⟩
    refine ⟨service.wrappers.next, client, touches.mClients ▸ member, touches.pid client, ?_, ?_⟩
    · rw [wrappers, if_pos ⟨rfl, key⟩]
    · rw [ServiceState.wrapper, heap, Heap.get_modify, Heap.get_alloc]
      exact (RemoteCallbackList.mem_register rfl).mpr (.inr ⟨rfl, living⟩)

end ServiceState

private theorem toInt32_byte (number : UInt8) : 0 ≤ number.toUInt32.toInt32 ∧ number.toUInt32.toInt32 ≤ 255 := by
  have few := number.toNat_lt
  have bits : number.toUInt32.toInt32.toBitVec.toNat = number.toNat := UInt8.toNat_toUInt32 number
  have same : number.toUInt32.toInt32.toInt = number.toNat := by
    rw [Int32.toInt, BitVec.toInt_eq_toNat_of_lt (by rw [bits]; omega), bits]
  rw [Int32.le_iff_toInt_le, Int32.le_iff_toInt_le, same]
  exact ⟨Int.natCast_nonneg _, by change (number.toNat : Int) ≤ 255; omega⟩

theorem valid_of_widen {command : CpuCommand} {wanted : Uart.CpuCommand} (key : command.key = widen wanted) :
    command.isValid = true := by
  obtain ⟨cmd, subCmd⟩ := Prod.mk.inj key
  rw [CpuCommand.isValid, cmd, subCmd]
  exact decide_eq_true ⟨(toInt32_byte _).1, (toInt32_byte _).2, (toInt32_byte _).1, (toInt32_byte _).2⟩

def Task.Spares (pid : Int) (wanted : Uart.CpuCommand) (listener : B) : Task B → Prop
  | .unsubscribe other command who => ¬ (other = pid ∧ command.key = widen wanted ∧ who = listener)
  | .destroyClient other => other ≠ pid
  | .subscribe _ _ _ | .setErrorCallback _ _ | .resetErrorCallback _ | .sendCommand _ _ => True

instance {pid : Int} {wanted : Uart.CpuCommand} {listener : B} : DecidablePred (Task.Spares pid wanted listener)
  | .unsubscribe _ _ _ => inferInstanceAs (Decidable (¬ (_ ∧ _ ∧ _)))
  | .destroyClient _ => inferInstanceAs (Decidable (_ ≠ _))
  | .subscribe _ _ _ | .setErrorCallback _ _ | .resetErrorCallback _ | .sendCommand _ _ => .isTrue trivial

open ServiceState

variable {service : ServiceState B} {wanted : Uart.CpuCommand} {listener : B} {pid : Int} {wrapper : Nat}

theorem Task.run_wired {task : Task B} (wired : Wired service) (spares : task.Spares pid wanted listener) :
    Outcome (Kept pid wanted listener wrapper service) (fun _ => True) (task.run service) := by
  cases task with
  | subscribe process command who =>
    rw [run]
    split
    · rename_i valid
      obtain ⟨made, member⟩ := @getOrCreateClient_wired _ _ service wrapper wanted listener who pid process wired
      generalize service.getOrCreateClient process who = result at made member ⊢
      obtain ⟨client, middle⟩ := result
      cases client with
      | some client =>
        exact (addListener_wired made.1 (member client rfl) valid).imp fun after last => made.trans last
      | none => exact made
    · exact Kept.refl wired
  | unsubscribe process command who =>
    rw [run]
    cases found : service.getClient process with
    | none => exact Kept.refl wired
    | some client =>
      obtain ⟨member, own⟩ := getClient_some found
      have left : Outcome (fun result => Kept pid wanted listener wrapper service result.2) (fun _ => True)
        (service.removeListener client command who) := removeListener_wired wired member (own.symm ▸ spares)
      refine ((removeListener_touches.fault fun _ _ => trivial).and left).bind ?_
      rintro ⟨removed, middle⟩ ⟨touches, kept⟩
      exact (destroyUnused_wired kept.1 (touches.mClients ▸ member)).imp fun after last => kept.trans last
  | setErrorCallback process errorCallback =>
    rw [run]
    obtain ⟨made, -⟩ := @getOrCreateClient_wired _ _ service wrapper wanted listener errorCallback pid process wired
    generalize service.getOrCreateClient process errorCallback = result at made ⊢
    obtain ⟨client, middle⟩ := result
    cases client with
    | some client => exact (setErrorCallback_wired made.1).imp fun after last => made.trans last.1
    | none => exact made
  | resetErrorCallback process =>
    rw [run]
    cases found : service.getClient process with
    | none => exact Kept.refl wired
    | some client =>
      have reset : Outcome (fun after => Kept pid wanted listener wrapper service after ∧
        after.mClients = service.mClients) (fun _ => True) (service.setErrorCallback client none) := setErrorCallback_wired wired
      refine reset.bind fun middle kept => ?_
      exact (destroyUnused_wired kept.1.1 (kept.2 ▸ (getClient_some found).1)).imp fun after last => kept.1.trans last
  | sendCommand process command =>
    rw [run]
    split
    · exact send_wired wired
    · exact Kept.refl wired
  | destroyClient process =>
    rw [run]
    cases found : service.getClient process with
    | none => exact trivial
    | some client =>
      obtain ⟨member, rfl⟩ := getClient_some found
      exact destroyClient_wired wired member fun _ => spares

theorem Task.run_listens {command : CpuCommand} (wired : Wired service) (key : command.key = widen wanted)
    (alive : listener ∉ service.dead) :
    Outcome (fun after => ∃ wrapper, Listens after pid wanted listener wrapper) (fun _ => True)
      (run service (.subscribe pid command listener)) := by
  have valid := valid_of_widen key
  rw [run, if_pos valid, getOrCreateClient]
  cases found : service.getClient pid with
  | some client =>
    obtain ⟨member, rfl⟩ := getClient_some found
    exact addListener_listens wired member valid key alive
  | none =>
    obtain ⟨middle, made, creates, -⟩ := @createClient_alive _ _ service pid listener ⟨pid⟩ alive
    have kept : Kept pid wanted listener 0 service (service.createClient pid listener ⟨pid⟩).2 :=
      createClient_wired wired (getClient_none found)
    dsimp only
    rw [made] at kept ⊢
    refine (addListener_listens kept.1 (creates.mem.mpr (.inr rfl)) valid key (creates.dead.symm ▸ alive)).imp ?_
    rintro after ⟨wrapper, listens⟩
    exact ⟨wrapper, creates.newest_pid ▸ listens⟩

namespace Executor

def Spares (pid : Int) (wanted : Uart.CpuCommand) (listener : B) (executor : Executor B) : ExecutorEvent B → Prop
  | .runs => ∀ task ∈ executor.queue.head?, task.Spares pid wanted listener
  | .dies binder => binder ≠ listener
  | .calls _ | .binderDied _ => True

variable {executor : Executor B} {event : ExecutorEvent B}

instance : DecidablePred (executor.Spares pid wanted listener)
  | .runs => inferInstanceAs (Decidable (∀ task ∈ executor.queue.head?, task.Spares pid wanted listener))
  | .dies _ => inferInstanceAs (Decidable (_ ≠ _))
  | .calls _ | .binderDied _ => .isTrue trivial

theorem step_kept (wired : Wired executor.service) (spares : executor.Spares pid wanted listener event) :
    Outcome (fun after => Kept pid wanted listener wrapper executor.service after.service) (fun _ => True)
      (executor.step event) := by
  cases event with
  | calls call => exact Kept.refl wired
  | dies binder => exact dies_wired wired spares
  | binderDied observer =>
    rw [step]
    split
    · exact Kept.refl wired
    · exact Kept.refl wired
  | runs =>
    rw [step]
    cases tasks : executor.queue with
    | nil => exact Kept.refl wired
    | cons task queue =>
      have spared : task.Spares pid wanted listener := spares task (by rw [tasks]; rfl)
      exact (Task.run_wired wired spared).bind fun service kept => kept

/-- Whatever the step does, it is beside what some process has subscribed to. -/
theorem step_wired (listener : B) (wired : Wired executor.service) :
    Outcome (fun after => Wired after.service) (fun _ => True) (executor.step event) := by
  have elsewhere (task : Task B) : ∃ pid, task.Spares pid (0, 0) listener := by
    cases task with
    | unsubscribe process command who =>
      refine ⟨process + 1, ?_⟩
      rintro ⟨same, -⟩
      omega
    | destroyClient process => exact ⟨process + 1, by rw [Task.Spares]; omega⟩
    | subscribe process command who => exact ⟨process, trivial⟩
    | setErrorCallback process errorCallback => exact ⟨process, trivial⟩
    | resetErrorCallback process => exact ⟨process, trivial⟩
    | sendCommand process command => exact ⟨process, trivial⟩
  cases event with
  | dies binder => exact wired.dies
  | calls call => exact wired
  | binderDied observer =>
    rw [step]
    split
    · exact wired
    · exact wired
  | runs =>
    rw [step]
    cases tasks : executor.queue with
    | nil => exact wired
    | cons task queue =>
      obtain ⟨pid, spared⟩ := elsewhere task
      have kept := @Task.run_wired _ _ _ _ _ pid 0 task wired spared
      exact kept.bind fun service kept => kept.1

end Executor
end CpuCom.Service
