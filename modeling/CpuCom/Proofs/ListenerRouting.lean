import CpuCom.Interaction.Outcome
import CpuCom.Service.Client

/-! Listeners of one client. The native part has the callback of every wrapper that
the client has, so that a notification reaches the listeners that are registered,
whatever happened to them behind the client's back. -/

namespace CpuCom.Service.ServiceState
open Interaction

variable {B : Type} [LinearOrder B]

inductive ClientOperation (B : Type) where
  | addListener (command : CpuCommand) (listener : B)
  | removeListener (command : CpuCommand) (listener : B)
  | died (listener : B)
deriving DecidableEq

/-- The numbers of a command are bytes. -/
def ClientOperation.Valid : ClientOperation B → Prop
  | .addListener command _ => command.isValid = true
  | .removeListener command _ => command.isValid = true
  | .died _ => True

def operate (client : Nat) (service : ServiceState B) : ClientOperation B → Except Fault (ServiceState B)
  | .addListener command listener => service.addListener client command listener
  | .removeListener command listener => do
      let (_, service) ← service.removeListener client command listener
      pure service
  | .died listener => .ok (service.dies listener)

def decision (command : Uart.CpuCommand) (listener : B) : ClientOperation B → Option Bool
  | .addListener other who => if other.key = widen command ∧ who = listener then some true else none
  | .removeListener other who => if other.key = widen command ∧ who = listener then some false else none
  | .died _ => none

/-- The latest add or remove is an add. -/
def Added (operations : List (ClientOperation B)) (command : Uart.CpuCommand) (listener : B) : Prop :=
  (operations.filterMap (decision command listener)).getLast? = some true

def Alive (operations : List (ClientOperation B)) (listener : B) : Prop := .died listener ∉ operations

def listenersOf (service : ServiceState B) (client : Nat) (key : Int32 × Int32) : List B :=
  ((service.wrapperOf client key).map fun wrapper => (service.wrapper wrapper).callbacks).getD []

/-- The wrappers of a client are its own, one for each command. -/
structure Owned (service : ServiceState B) (client : Nat) : Prop where
  allocated : ∀ key wrapper, service.wrapperOf client key = some wrapper → wrapper < service.wrappers.next
  apart : ∀ key other wrapper, service.wrapperOf client key = some wrapper →
    service.wrapperOf client other = some wrapper → key = other
  unkilled : ∀ wrapper, (service.wrapper wrapper).killed = false

/-- The native callbacks of the process are the wrappers of its client. -/
def Mirrored (service : ServiceState B) (client : Nat) (pid : Int) : Prop :=
  ∃ native, service.native.gClients[pid]? = some native ∧ ∀ command : Uart.CpuCommand,
    native.callbacks[command]? = (service.wrapperOf client (widen command)).map fun wrapper => some (.onCommand wrapper)

/-- The lists hold the live listeners that were added last. -/
structure Registered (client : Nat) (operations : List (ClientOperation B)) (service : ServiceState B) : Prop where
  owned : Owned service client
  dead : ∀ listener, listener ∈ service.dead ↔ ¬ Alive operations listener
  listeners : ∀ command listener, listener ∈ service.listenersOf client (widen command) ↔
    Added operations command listener ∧ Alive operations listener

structure Routed (pid : Int) (client : Nat) (operations : List (ClientOperation B)) (service : ServiceState B) :
    Prop where
  registered : Registered client operations service
  own : service.pid client = pid
  mirrored : Mirrored service client pid

variable {service after : ServiceState B} {client wrapper : Nat} {key other : Int32 × Int32} {command : CpuCommand}
  {listener : B}
  {operations : List (ClientOperation B)} {pid : Int}

theorem listenersOf_some (found : service.wrapperOf client key = some wrapper) :
    service.listenersOf client key = (service.wrapper wrapper).callbacks := by
  rw [listenersOf, found]
  rfl

theorem listenersOf_none (missing : service.wrapperOf client key = none) : service.listenersOf client key = [] := by
  rw [listenersOf, missing]
  rfl

/-- The wrapper of the command is there, and no list has changed. -/
structure Ensured (service : ServiceState B) (client : Nat) (command : CpuCommand) (wrapper : Nat)
    (after : ServiceState B) : Prop where
  wrappers : ∀ key, after.wrapperOf client key =
    if command.key = key then some wrapper else service.wrapperOf client key
  before : ∀ found, service.wrapperOf client command.key = some found → found = wrapper
  owned : Owned after client
  listeners : ∀ key, after.listenersOf client key = service.listenersOf client key
  native : after.native = service.native
  pid : after.pid client = service.pid client
  dead : after.dead = service.dead

theorem computeIfAbsent_ensured (owned : Owned service client) :
    Ensured service client command (service.computeIfAbsent client command).1
      (service.computeIfAbsent client command).2 := by
  cases entry : service.wrapperOf client command.key with
  | some wrapper =>
    rw [computeIfAbsent_some entry]
    refine ⟨fun key => ?_, fun found same => Option.some.inj (same.symm.trans entry), owned, fun _ => rfl,
      rfl, rfl, rfl⟩
    split
    · rename_i same
      exact same ▸ entry
    · rfl
  | none =>
    rw [computeIfAbsent_none entry]
    obtain ⟨allocated, apart, unkilled⟩ := owned
    let grown : ServiceState B := { service with wrappers := (service.wrappers.alloc .new).2 }
    have older (wrapper : Nat) (other : wrapper ≠ service.wrappers.next) :
      grown.wrapper wrapper = service.wrapper wrapper :=
      Heap.get_alloc_ne other
    have newest : grown.wrapper service.wrappers.next = .new := Heap.get_alloc
    have wrappers (key : Int32 × Int32) :
      (grown.changeCallbacks client (·.insert command.key service.wrappers.next)).wrapperOf client key =
        if command.key = key then some service.wrappers.next else service.wrapperOf client key := wrapperOf_insert
    refine ⟨wrappers, fun found same => absurd (same.symm.trans entry) (Option.some_ne_none found), ⟨?_, ?_, ?_⟩, ?_,
      rfl, ?_, rfl⟩
    · intro key wrapper found
      rw [wrappers] at found
      split at found
      · obtain rfl := Option.some.inj found
        exact Nat.lt_succ_self _
      · exact Nat.lt_succ_of_lt (allocated key wrapper found)
    · intro key other wrapper found here
      rw [wrappers] at found here
      split at found
      · split at here
        · rename_i first second
          exact first.symm.trans second
        · obtain rfl := Option.some.inj found
          exact absurd (allocated other _ here) (Nat.lt_irrefl _)
      · split at here
        · obtain rfl := Option.some.inj here
          exact absurd (allocated key _ found) (Nat.lt_irrefl _)
        · exact apart key other wrapper found here
    · intro wrapper
      by_cases new : wrapper = service.wrappers.next
      · subst new
        exact congrArg RemoteCallbackList.killed newest
      · exact (congrArg RemoteCallbackList.killed (older wrapper new)).trans (unkilled wrapper)
    · intro key
      by_cases same : command.key = key
      · subst same
        have found := wrappers command.key
        rw [if_pos rfl] at found
        rw [listenersOf_some found, listenersOf_none entry]
        exact congrArg RemoteCallbackList.callbacks newest
      · have found := wrappers key
        rw [if_neg same] at found
        cases before : service.wrapperOf client key with
        | none => rw [listenersOf_none (found.trans before), listenersOf_none before]
        | some wrapper =>
          rw [listenersOf_some (found.trans before), listenersOf_some before]
          exact congrArg RemoteCallbackList.callbacks (older wrapper (Nat.ne_of_lt (allocated key wrapper before)))
    · exact pid_changeCallbacks

variable {change : RemoteCallbackList B → RemoteCallbackList B}

@[simp] theorem wrapperOf_changeWrapper :
    (service.changeWrapper wrapper change).wrapperOf client key = service.wrapperOf client key :=
  rfl

theorem owned_changeWrapper (owned : Owned service client) (kept : ∀ list, (change list).killed = list.killed) :
    Owned (service.changeWrapper wrapper change) client := by
  obtain ⟨allocated, apart, unkilled⟩ := owned
  refine ⟨allocated, apart, fun other => ?_⟩
  exact (Heap.modify_keeps RemoteCallbackList.killed kept).trans (unkilled other)

theorem listenersOf_changeWrapper (found : service.wrapperOf client key = some wrapper) :
    (service.changeWrapper wrapper change).listenersOf client key = (change (service.wrapper wrapper)).callbacks := by
  rw [← wrapperOf_changeWrapper] at found
  rw [listenersOf_some found]
  exact congrArg RemoteCallbackList.callbacks Heap.get_modify

theorem listenersOf_changeWrapper_ne (owned : Owned service client)
    (found : service.wrapperOf client key = some wrapper)
    (different : other ≠ key) :
    (service.changeWrapper wrapper change).listenersOf client other = service.listenersOf client other := by
  cases entry : service.wrapperOf client other with
  | none => rw [listenersOf_none entry, listenersOf_none (wrapperOf_changeWrapper.trans entry)]
  | some another =>
    rw [listenersOf_some entry, listenersOf_some (wrapperOf_changeWrapper.trans entry)]
    have apart : another ≠ wrapper := by
      rintro rfl
      exact different (owned.apart other key another entry found)
    exact congrArg RemoteCallbackList.callbacks (Heap.get_modify_ne apart)

theorem added_snoc {operation : ClientOperation B} {wanted : Uart.CpuCommand} :
    Added (operations ++ [operation]) wanted listener ↔
      decision wanted listener operation = some true ∨ decision wanted listener operation = none ∧
        Added operations wanted listener := by
  unfold Added
  rw [List.filterMap_append, List.getLast?_append]
  cases decided : decision wanted listener operation with
  | none => simp [decided]
  | some added => simp [decided]

omit [LinearOrder B] in
theorem alive_snoc {operation : ClientOperation B} :
    Alive (operations ++ [operation]) listener ↔ Alive operations listener ∧ .died listener ≠ operation := by
  simp [Alive]

theorem Registered.called {native : NativeClients} {journal : List (NativeClients × NativeCall)}
    (registered : Registered client operations service) :
    Registered client operations { service with native, journal } := by
  obtain ⟨⟨allocated, apart, unkilled⟩, dead, listeners⟩ := registered
  exact ⟨⟨allocated, apart, unkilled⟩, dead, listeners⟩

theorem put_registered (registered : Registered client operations service)
    (ensured : Ensured service client command wrapper after) :
    Registered client (operations ++ [.addListener command listener]) (after.put wrapper listener) := by
  obtain ⟨owned, dead, listeners⟩ := registered
  have found := ensured.wrappers command.key
  rw [if_pos rfl] at found
  refine ⟨owned_changeWrapper ensured.owned fun _ => RemoteCallbackList.killed_register, fun who => ?_,
    fun wanted who => ?_⟩
  · rw [alive_snoc]
    change who ∈ after.dead ↔ _
    rw [ensured.dead, dead]
    simp
  · rw [added_snoc, alive_snoc]
    by_cases same : widen wanted = command.key
    · have living : after.isBinderAlive listener = true ↔ Alive operations listener := by
        rw [isBinderAlive_iff, ensured.dead, dead, not_not]
      rw [same, put, listenersOf_changeWrapper found, RemoteCallbackList.mem_register (ensured.owned.unkilled wrapper),
        ← listenersOf_some found, ensured.listeners, ← same, listeners, living]
      by_cases who_added : who = listener
      · subst who_added
        simp [decision, same]
      · simp [decision, who_added, Ne.symm who_added]
    · rw [put, listenersOf_changeWrapper_ne ensured.owned found same, ensured.listeners, listeners]
      simp [decision, Ne.symm same]

theorem remove_registered (registered : Registered client operations service)
    (found : service.wrapperOf client command.key = some wrapper) :
    Registered client (operations ++ [.removeListener command listener]) (service.remove wrapper listener) := by
  obtain ⟨owned, dead, listeners⟩ := registered
  refine ⟨owned_changeWrapper owned fun _ => rfl, fun who => ?_, fun wanted who => ?_⟩
  · rw [alive_snoc]
    change who ∈ service.dead ↔ _
    rw [dead]
    simp
  · rw [added_snoc, alive_snoc]
    by_cases same : widen wanted = command.key
    · rw [same, remove, listenersOf_changeWrapper found, RemoteCallbackList.mem_unregister, ← listenersOf_some found,
        ← same, listeners]
      by_cases who_removed : who = listener
      · subst who_removed
        simp [decision, same]
      · simp [decision, who_removed, Ne.symm who_removed]
    · rw [remove, listenersOf_changeWrapper_ne owned found same, listeners]
      simp [decision, Ne.symm same]

theorem absent_registered (registered : Registered client operations service)
    (missing : service.wrapperOf client command.key = none) :
    Registered client (operations ++ [.removeListener command listener]) service := by
  obtain ⟨owned, dead, listeners⟩ := registered
  refine ⟨owned, fun who => ?_, fun wanted who => ?_⟩
  · rw [alive_snoc, dead]
    simp
  · rw [added_snoc, alive_snoc]
    by_cases same : widen wanted = command.key
    · have nobody := listeners wanted who
      rw [same, listenersOf_none missing] at nobody ⊢
      by_cases who_removed : who = listener
      · subst who_removed
        simp [decision, same]
      · simpa [decision, who_removed, Ne.symm who_removed] using nobody
    · rw [listeners]
      simp [decision, Ne.symm same]

theorem erase_registered (registered : Registered client operations service)
    (empty : service.listenersOf client key = []) :
    Registered client operations (service.changeCallbacks client (·.erase key)) := by
  obtain ⟨⟨allocated, apart, unkilled⟩, dead, listeners⟩ := registered
  have subset (other : Int32 × Int32) (wrapper : Nat)
      (found : (service.changeCallbacks client (·.erase key)).wrapperOf client other = some wrapper) :
      service.wrapperOf client other = some wrapper := by
    rw [wrapperOf_erase] at found
    split at found
    · cases found
    · exact found
  have same (other : Int32 × Int32) :
      (service.changeCallbacks client (·.erase key)).listenersOf client other = service.listenersOf client other := by
    have entry := @wrapperOf_erase _ _ service client key other
    by_cases erased : key = other
    · subst erased
      rw [if_pos rfl] at entry
      rw [listenersOf_none entry, empty]
    · rw [if_neg erased] at entry
      rw [listenersOf, entry]
      rfl
  refine ⟨⟨?_, ?_, unkilled⟩, dead, fun wanted who => ?_⟩
  · exact fun other wrapper found => allocated other wrapper (subset other wrapper found)
  · exact fun one two wrapper first second =>
      apart one two wrapper (subset one wrapper first) (subset two wrapper second)
  · rw [same, listeners]

theorem dies_registered (registered : Registered client operations service) :
    Registered client (operations ++ [.died listener]) (service.dies listener) := by
  obtain ⟨⟨allocated, apart, unkilled⟩, dead, listeners⟩ := registered
  refine ⟨⟨allocated, apart, unkilled⟩, fun who => ?_, fun wanted who => ?_⟩
  · rw [alive_snoc]
    change who ∈ listener :: service.dead ↔ _
    rw [List.mem_cons, dead]
    simp
    tauto
  · have left : who ∈ (service.dies listener).listenersOf client (widen wanted) ↔
        who ∈ service.listenersOf client (widen wanted) ∧ who ≠ listener := by
      cases entry : service.wrapperOf client (widen wanted) with
      | none =>
        have after : (service.dies listener).wrapperOf client (widen wanted) = none := entry
        rw [listenersOf_none entry, listenersOf_none after]
        simp
      | some wrapper =>
        have after : (service.dies listener).wrapperOf client (widen wanted) = some wrapper := entry
        rw [listenersOf_some entry, listenersOf_some after]
        exact RemoteCallbackList.mem_unregister
    rw [left, listeners, added_snoc, alive_snoc]
    simp [decision]
    tauto

theorem addListener_routed (routed : Routed pid client operations service) (valid : command.isValid = true) :
    Outcome (Routed pid client (operations ++ [.addListener command listener])) (fun _ => False)
      (service.addListener client command listener) := by
  have ensured : Ensured service client command _ _ := computeIfAbsent_ensured routed.registered.owned
  obtain ⟨native, found, callbacks⟩ := routed.mirrored
  rw [addListener]
  generalize service.computeIfAbsent client command = result at ensured ⊢
  obtain ⟨wrapper, grown⟩ := result
  dsimp only at ensured ⊢
  have registered : Registered client (operations ++ [.addListener command listener]) (grown.put wrapper listener) :=
    put_registered routed.registered ensured
  have present : (grown.put wrapper listener).native.gClients[(grown.put wrapper listener).pid client]? =
      some native := by
    change grown.native.gClients[grown.pid client]? = some native
    rw [ensured.native, ensured.pid, routed.own]
    exact found
  have own : grown.pid client = pid := ensured.pid.trans routed.own
  rw [Bool.not_not]
  by_cases empty : (grown.wrapper wrapper).isEmpty = true
  · rw [if_pos empty, ServiceState.call, NativeClients.perform_subscribe present]
    let callback : NativeCallback := .onCommand wrapper
    refine ⟨registered.called, own,
      (native.perform (.addCallback (narrow command.cmd command.subCmd) (some callback))).2, ?_,
      fun wanted => ?_⟩
    · change (grown.native.gClients.insert (grown.pid client) _)[pid]? = _
      rw [own]
      exact Std.TreeMap.getElem?_insert_self
    change _ = (grown.wrapperOf client (widen wanted)).map _
    rw [NativeClients.callbacks_addCallback, ensured.wrappers, callbacks, callbacks]
    by_cases same : narrow command.cmd command.subCmd = wanted
    · rw [if_pos same, if_pos ((narrow_eq_iff valid).mp same), same, ← (narrow_eq_iff valid).mp same]
      cases entry : service.wrapperOf client command.key with
      | none => rfl
      | some before =>
        rw [ensured.before before entry]
        rfl
    · rw [if_neg same, if_neg fun key => same ((narrow_eq_iff valid).mpr key)]
  · rw [if_neg empty]
    refine ⟨registered, own, native, own ▸ present, fun wanted => ?_⟩
    change _ = (grown.wrapperOf client (widen wanted)).map _
    rw [callbacks, ensured.wrappers]
    split
    · rename_i same
      rw [← same]
      cases entry : service.wrapperOf client command.key with
      | none =>
        have nobody := ensured.listeners command.key
        have here := ensured.wrappers command.key
        rw [if_pos rfl] at here
        rw [listenersOf_none entry, listenersOf_some here] at nobody
        refine absurd ?_ empty
        rw [RemoteCallbackList.isEmpty, RemoteCallbackList.getRegisteredCallbackCount, nobody]
        rfl
      | some before => rw [ensured.before before entry]
    · rfl

theorem removeListener_routed (routed : Routed pid client operations service) (valid : command.isValid = true) :
    Outcome (Routed pid client (operations ++ [.removeListener command listener])) (fun _ => False)
      (operate client service (.removeListener command listener)) := by
  obtain ⟨native, found, callbacks⟩ := routed.mirrored
  rw [operate, removeListener]
  cases entry : service.wrapperOf client command.key with
  | none => exact ⟨absent_registered routed.registered entry, routed.own, native, found, callbacks⟩
  | some wrapper =>
    have registered : Registered client (operations ++ [.removeListener command listener])
      (service.remove wrapper listener) :=
      remove_registered routed.registered entry
    have present : (service.remove wrapper listener).native.gClients[(service.remove wrapper listener).pid client]? =
        some native := by
      change service.native.gClients[service.pid client]? = some native
      rw [routed.own]
      exact found
    dsimp only
    by_cases empty : ((service.remove wrapper listener).wrapper wrapper).isEmpty = true
    · rw [if_pos empty, ServiceState.call, NativeClients.perform_unsubscribe present]
      have nobody : (service.remove wrapper listener).listenersOf client command.key = [] := by
        have left : (service.remove wrapper listener).wrapperOf client command.key = some wrapper := entry
        rw [listenersOf_some left]
        exact List.length_eq_zero_iff.mp (of_decide_eq_true empty)
      refine ⟨erase_registered registered.called nobody, pid_changeCallbacks.trans routed.own,
        { native with callbacks := native.callbacks.erase (narrow command.cmd command.subCmd) }, ?_, fun wanted => ?_⟩
      · change (service.native.gClients.insert (service.pid client) _)[pid]? = _
        rw [routed.own]
        exact Std.TreeMap.getElem?_insert_self
      · rw [wrapperOf_erase]
        dsimp only
        by_cases same : narrow command.cmd command.subCmd = wanted
        · rw [if_pos ((narrow_eq_iff valid).mp same), same]
          exact Std.TreeMap.getElem?_erase_self
        · rw [if_neg fun key => same ((narrow_eq_iff valid).mpr key), Std.TreeMap.getElem?_erase]
          rw [if_neg (by simpa using same)]
          exact callbacks wanted
    · rw [if_neg empty]
      exact ⟨registered, routed.own, native, found, callbacks⟩

theorem operate_routed {operation : ClientOperation B} (routed : Routed pid client operations service)
    (valid : operation.Valid) :
    Outcome (Routed pid client (operations ++ [operation])) (fun _ => False) (operate client service operation) := by
  cases operation with
  | addListener command listener => exact addListener_routed routed valid
  | removeListener command listener => exact removeListener_routed routed valid
  | died listener =>
    obtain ⟨native, found, callbacks⟩ := routed.mirrored
    exact ⟨dies_registered routed.registered, routed.own, native, found, callbacks⟩

/-- A `v2::CpuCom` that is created anew has no callbacks. -/
theorem create_callbacks {native : NativeClients} {pid : Int}
    (unused : ∀ client, native.gClients[pid]? = some client → client.callbacks = ∅) :
    ∃ client, (native.create pid).gClients[pid]? = some client ∧ client.callbacks = ∅ := by
  refine ⟨_, Std.TreeMap.getElem?_insert_self, ?_⟩
  dsimp only
  rw [Std.TreeMap.getD_eq_getD_getElem?, Std.TreeMap.getElem?_insertIfNew]
  cases entry : native.gClients[pid]? with
  | none => simp [Std.TreeMap.mem_iff_isSome_getElem?, entry, Messaging.Client.initial]
  | some client => simpa [Std.TreeMap.mem_iff_isSome_getElem?, entry] using unused client entry

theorem newClient_routed {before : ServiceState B} {pid : Int} {binder : Option B} (alive : before.dead = [])
    (unkilled : ∀ wrapper, (before.wrapper wrapper).killed = false)
    (unused : ∀ client, before.native.gClients[pid]? = some client → client.callbacks = ∅) :
    Routed pid (before.newClient pid binder).1 [] (before.newClient pid binder).2 := by
  have made : (before.newClient pid binder).2.client (before.newClient pid binder).1 = ⟨pid, binder, ∅, none⟩ :=
    Heap.get_alloc
  have missing (key : Int32 × Int32) :
      (before.newClient pid binder).2.wrapperOf (before.newClient pid binder).1 key = none := by
    rw [wrapperOf, made]
    exact Std.TreeMap.getElem?_emptyc
  refine ⟨⟨⟨fun key wrapper found => ?_, fun key other wrapper found => ?_, unkilled⟩, fun listener => ?_,
    fun command listener => ?_⟩,
    congrArg Client.mPid made, ?_⟩
  · exact absurd (found.symm.trans (missing key)) (Option.some_ne_none wrapper)
  · exact absurd (found.symm.trans (missing key)) (Option.some_ne_none wrapper)
  · change listener ∈ before.dead ↔ _
    simp [alive, Alive]
  · rw [listenersOf_none (missing _)]
    simp [Added]
  · obtain ⟨native, found, none⟩ := create_callbacks unused
    refine ⟨native, found, fun command => ?_⟩
    rw [missing, none]
    exact Std.TreeMap.getElem?_emptyc

theorem onNotification_eq (mirrored : Mirrored service client pid) (command : Uart.CpuCommand) (data : Messaging.Data) :
    service.onNotification pid command data = (service.listenersOf client (widen command)).map fun listener =>
      (listener, ⟨(widen command).1, (widen command).2, data.map UInt8.toInt8⟩) := by
  obtain ⟨native, found, callbacks⟩ := mirrored
  rw [onNotification, NativeClients.onNotification_eq found, Std.TreeMap.getD_eq_getD_getElem?, callbacks]
  cases entry : service.wrapperOf client (widen command) with
  | none =>
    rw [listenersOf_none entry]
    rfl
  | some wrapper =>
    rw [listenersOf_some entry]
    exact List.append_nil _

theorem nodup_listenersOf : (service.listenersOf client key).Nodup := by
  cases entry : service.wrapperOf client key with
  | none =>
    rw [listenersOf_none entry]
    exact .nil
  | some wrapper =>
    rw [listenersOf_some entry]
    exact (service.wrapper wrapper).nodup

/-- After any operations on one client the native part has a callback for a command
if and only if the client has a wrapper for it, the callback is for this wrapper, and
a notification reaches the live listeners that were added last, each once. -/
theorem listeners_routed (pid : Int) (binder : Option B) (operations : List (ClientOperation B))
    (valid : ∀ operation ∈ operations, operation.Valid) :
    let client := ((initial : ServiceState B).newClient pid binder).1
    ∃ service, operations.foldlM (operate client) ((initial : ServiceState B).newClient pid binder).2 = .ok service ∧
      ∀ command : Uart.CpuCommand,
        (∃ native, service.native.gClients[pid]? = some native ∧ native.callbacks[command]? =
          (service.wrapperOf client (widen command)).map fun wrapper => some (.onCommand wrapper)) ∧
        ∀ data, ∃ listeners : List B, listeners.Nodup ∧
          (∀ listener, listener ∈ listeners ↔ Added operations command listener ∧ Alive operations listener) ∧
          service.onNotification pid command data = listeners.map fun listener =>
            (listener, ⟨(widen command).1, (widen command).2, data.map UInt8.toInt8⟩) := by
  intro client
  have start : Routed pid client [] ((initial : ServiceState B).newClient pid binder).2 := by
    refine newClient_routed rfl (fun _ => rfl) fun native found => ?_
    by_cases anonymous : pid = anonymousClientPid
    · subst anonymous
      have unused : ∀ client, NativeClients.initial.gClients[anonymousClientPid]? = some client →
        client.callbacks = ∅ :=
        fun client found => absurd (found.symm.trans Std.TreeMap.getElem?_emptyc) (Option.some_ne_none client)
      obtain ⟨client, created, none⟩ := create_callbacks unused
      exact Option.some.inj (created.symm.trans found) ▸ none
    · have missing : (initial : ServiceState B).native.gClients[pid]? = none := by
        refine Std.TreeMap.getElem?_eq_none fun member => ?_
        rcases NativeClients.mem_create.mp member with same | member
        · exact anonymous same
        · exact Std.TreeMap.not_mem_emptyc member
      exact absurd (found.symm.trans missing) (Option.some_ne_none native)
  have guarded : Guarded (operate client) (fun _ => ClientOperation.Valid)
    ((initial : ServiceState B).newClient pid binder).2 operations :=
    guarded_of_forall valid
  have ends : Outcome (Routed pid client operations) (fun _ => False) _ :=
    guarded.history start fun done service operation routed valid => operate_routed routed valid
  obtain ⟨service, ran, routed⟩ := ends.exists_ok
  refine ⟨service, ran, fun command => ?_⟩
  obtain ⟨native, found, callbacks⟩ := routed.mirrored
  refine ⟨⟨native, found, callbacks command⟩, fun data => ?_⟩
  exact ⟨service.listenersOf client (widen command), nodup_listenersOf, routed.registered.listeners command,
    onNotification_eq routed.mirrored command data⟩

/-- A listener dies and leaves its list empty; the next one takes its place. -/
theorem listener_replaced : ∃ service,
    [.addListener ⟨4, 0, none⟩ 1, .died 1, .addListener ⟨4, 0, none⟩ 2].foldlM (operate 1)
      ((initial : ServiceState Nat).newClient 7 (some 1)).2 = .ok service ∧
      ∃ listeners : List Nat, listeners.Nodup ∧ 2 ∈ listeners ∧ 1 ∉ listeners ∧
        service.onNotification 7 (4, 0) [9] = listeners.map fun listener => (listener, ⟨4, 0, [9]⟩) := by
  obtain ⟨service, ran, routed⟩ := listeners_routed 7 (some 1)
    [.addListener ⟨4, 0, none⟩ 1, .died 1, .addListener ⟨4, 0, none⟩ 2] (by simp [ClientOperation.Valid]; decide)
  obtain ⟨-, notified⟩ := routed (4, 0)
  obtain ⟨listeners, nodup, members, reached⟩ := notified [9]
  have added : Added [.addListener ⟨4, 0, none⟩ 1, .died 1, .addListener ⟨4, 0, none⟩ 2] (4, 0) 2 := by
    unfold Added
    decide
  refine ⟨service, ran, listeners, nodup, (members 2).mpr ⟨added, ?_⟩,
    fun member => ((members 1).mp member).2 ?_, reached⟩
  · simp [Alive]
  · simp

end CpuCom.Service.ServiceState
