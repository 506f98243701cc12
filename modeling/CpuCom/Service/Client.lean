import CpuCom.Interaction.Heap
import CpuCom.Service.NativeClients

/-! The clients of the service and the objects that they own. `RemoteCallbackList`
and the links to the death of a binder are the platform's: a list is a set of live
binders, and whatever is linked to a binder is told of its death once. -/

namespace CpuCom.Service
open Interaction

variable {B : Type}

/-- Remote callbacks, known by their binders. -/
structure RemoteCallbackList (B : Type) where
  callbacks : List B
  killed : Bool
  nodup : callbacks.Nodup

/-- What a listener receives, a command with its data. -/
structure Received where
  cmd : Int32
  subCmd : Int32
  data : List Int8
deriving DecidableEq

namespace RemoteCallbackList

def new : RemoteCallbackList B := ⟨[], false, .nil⟩

def kill (_ : RemoteCallbackList B) : RemoteCallbackList B := ⟨[], true, .nil⟩

def getRegisteredCallbackCount (list : RemoteCallbackList B) : Nat := list.callbacks.length

def isEmpty (list : RemoteCallbackList B) : Bool := decide (list.getRegisteredCallbackCount = 0)

/-- The broadcast of a command. A listener that cannot be reached is passed over. -/
def onCommand (list : RemoteCallbackList B) (cmd subcmd : Int32) (data : List Int8) : List (B × Received) :=
  list.callbacks.map fun listener => (listener, ⟨cmd, subcmd, data⟩)

variable [DecidableEq B]

/-- A killed list takes no callbacks, and a dead binder cannot be registered. -/
def register (list : RemoteCallbackList B) (alive : Bool) (callback : B) : RemoteCallbackList B :=
  if absent : callback ∉ list.callbacks ∧ alive = true ∧ list.killed = false then
    { list with callbacks := callback :: list.callbacks, nodup := .cons absent.1 list.nodup }
  else list

/-- A callback that is unregistered, or whose process has died. -/
def unregister (list : RemoteCallbackList B) (callback : B) : RemoteCallbackList B :=
  { list with callbacks := list.callbacks.erase callback, nodup := list.nodup.erase callback }

variable {list : RemoteCallbackList B} {callback listener : B} {alive : Bool}

@[simp] theorem mem_register (unkilled : list.killed = false) :
    listener ∈ (list.register alive callback).callbacks ↔ listener ∈ list.callbacks ∨ listener = callback ∧
      alive = true := by
  unfold register
  by_cases present : callback ∈ list.callbacks
  · rw [dif_neg fun absent => absent.1 present]
    refine ⟨.inl, ?_⟩
    rintro (member | ⟨rfl, -⟩)
    · exact member
    · exact present
  · cases alive with
    | true =>
      rw [dif_pos ⟨present, rfl, unkilled⟩]
      simp [or_comm]
    | false => simp

@[simp] theorem mem_unregister :
    listener ∈ (list.unregister callback).callbacks ↔ listener ∈ list.callbacks ∧ listener ≠ callback := by
  rw [unregister, list.nodup.mem_erase_iff, and_comm]

@[simp] theorem killed_register : (list.register alive callback).killed = list.killed := by
  unfold register
  split <;> rfl

end RemoteCallbackList

/-- The keys of `mCallbacks`: `equals` of a command looks at its two numbers only. -/
def compareKeys : Int32 × Int32 → Int32 × Int32 → Ordering := compareLex (compareOn Prod.fst) (compareOn Prod.snd)

instance : Std.TransCmp compareKeys :=
  inferInstanceAs (Std.TransCmp (compareLex (compareOn Prod.fst) (compareOn Prod.snd)))

instance : Std.LawfulEqCmp compareKeys where
  eq_of_compare := by
    intro first second same
    unfold compareKeys compareLex compareOn at same
    rw [Ordering.then_eq_eq] at same
    exact Prod.ext (Std.LawfulEqOrd.eq_of_compare same.1) (Std.LawfulEqOrd.eq_of_compare same.2)

def CpuCommand.key (command : CpuCommand) : Int32 × Int32 := (command.cmd, command.subCmd)

/-- A valid command is the one of the library. -/
theorem narrow_eq_iff {command : CpuCommand} (valid : command.isValid = true) {wanted : Uart.CpuCommand} :
    narrow command.cmd command.subCmd = wanted ↔ command.key = widen wanted := by
  constructor
  · rintro rfl
    exact (widen_narrow valid).symm
  · intro same
    obtain ⟨cmd, subCmd⟩ := Prod.mk.inj same
    rw [cmd, subCmd]
    exact narrow_widen wanted

/-- A client's wrappers are objects. -/
structure Client (B : Type) where
  mPid : Int
  mBinder : Option B
  mCallbacks : Std.TreeMap (Int32 × Int32) Nat compareKeys
  mErrorCallback : Option Nat

/-- All remote callbacks of a process are told of its death by one observer. -/
structure ClientDeathObserver where
  mClientPid : Int
deriving DecidableEq

/-- The objects of the service and its native clients, the observers that are linked
to binders, and the binders that have died. The journal has every native call with
what it found, and `destroyed` every client whose `destroy` was called. -/
structure ServiceState (B : Type) [LinearOrder B] where
  clients : Heap (Client B)
  wrappers : Heap (RemoteCallbackList B)
  errorWrappers : Heap (RemoteCallbackList B)
  mClients : List Nat
  mDeathObservers : Std.TreeMap B ClientDeathObserver
  native : NativeClients
  links : List (B × ClientDeathObserver)
  dead : List B
  journal : List (NativeClients × NativeCall)
  destroyed : List Nat

namespace ServiceState
variable [LinearOrder B]

/-- Before the first client. -/
def empty : ServiceState B where
  clients := .empty ⟨0, none, ∅, none⟩
  wrappers := .empty .new
  errorWrappers := .empty .new
  mClients := []
  mDeathObservers := ∅
  native := .initial
  links := []
  dead := []
  journal := []
  destroyed := []

def client (service : ServiceState B) (client : Nat) : Client B := service.clients.get client

/-- `mCallbacks.get`. -/
def wrapperOf (service : ServiceState B) (client : Nat) (key : Int32 × Int32) : Option Nat :=
  (service.client client).mCallbacks[key]?

def wrapper (service : ServiceState B) (wrapper : Nat) : RemoteCallbackList B := service.wrappers.get wrapper

def pid (service : ServiceState B) (client : Nat) : Int := (service.client client).mPid

def isBinderAlive (service : ServiceState B) (binder : B) : Bool := !service.dead.contains binder

/-- A native method. -/
def call (service : ServiceState B) (call : NativeCall) : Except Fault (ServiceState B) := do
  let native ← service.native.perform call
  pure { service with native, journal := service.journal ++ [(service.native, call)] }

/-- The constructor of a client. -/
def newClient (service : ServiceState B) (pid : Int) (binder : Option B) : Nat × ServiceState B :=
  let (client, clients) := service.clients.alloc ⟨pid, binder, ∅, none⟩
  (client, { service with
    clients, native := service.native.create pid, journal := service.journal ++ [(service.native, .create pid)] })

def anonymousClientPid : Int := -1

/-- Before the first task there is the anonymous client only, which has no binder. -/
def initial : ServiceState B := ((empty : ServiceState B).newClient anonymousClientPid none).2

def mAnonymousClient : Nat := 0

def destroy (service : ServiceState B) (client : Nat) : Except Fault (ServiceState B) :=
  { service with destroyed := service.destroyed ++ [client] }.call (.destroy (service.pid client))

/-- A change of `mCallbacks`. -/
def changeCallbacks (service : ServiceState B) (client : Nat)
    (change : Std.TreeMap (Int32 × Int32) Nat compareKeys → Std.TreeMap (Int32 × Int32) Nat compareKeys) :
    ServiceState B :=
  { service with
    clients := service.clients.modify client fun object => { object with mCallbacks := change object.mCallbacks } }

@[simp] theorem pid_changeCallbacks {service : ServiceState B} {client other : Nat}
    {change : Std.TreeMap (Int32 × Int32) Nat compareKeys → Std.TreeMap (Int32 × Int32) Nat compareKeys} :
    (service.changeCallbacks client change).pid other = service.pid other := by
  unfold pid ServiceState.client changeCallbacks
  dsimp only
  exact Heap.modify_keeps Client.mPid fun _ => rfl

/-- The wrapper of a command, a new one if there is none. -/
def computeIfAbsent (service : ServiceState B) (client : Nat) (command : CpuCommand) : Nat × ServiceState B :=
  match service.wrapperOf client command.key with
  | some wrapper => (wrapper, service)
  | none =>
      let (wrapper, wrappers) := service.wrappers.alloc .new
      (wrapper, { service with wrappers }.changeCallbacks client (·.insert command.key wrapper))

variable {service : ServiceState B} {client wrapper : Nat} {key other : Int32 × Int32} {command : CpuCommand}

theorem isBinderAlive_iff {binder : B} : service.isBinderAlive binder = true ↔ binder ∉ service.dead := by
  simp [isBinderAlive]

theorem computeIfAbsent_some (found : service.wrapperOf client command.key = some wrapper) :
    service.computeIfAbsent client command = (wrapper, service) := by
  rw [computeIfAbsent, found]

/-- A new wrapper is nobody's, and it is empty. -/
theorem computeIfAbsent_none (missing : service.wrapperOf client command.key = none) :
    service.computeIfAbsent client command = (service.wrappers.next,
      { service with wrappers := (service.wrappers.alloc .new).2 }.changeCallbacks client
        (·.insert command.key service.wrappers.next)) := by
  rw [computeIfAbsent, missing]
  rfl

theorem wrapperOf_insert : (service.changeCallbacks client (·.insert key wrapper)).wrapperOf client other =
    if key = other then some wrapper else service.wrapperOf client other := by
  simp [wrapperOf, ServiceState.client, changeCallbacks, Std.TreeMap.getElem?_insert]

theorem wrapperOf_erase : (service.changeCallbacks client (·.erase key)).wrapperOf client other =
    if key = other then none else service.wrapperOf client other := by
  simp [wrapperOf, ServiceState.client, changeCallbacks, Std.TreeMap.getElem?_erase]

/-- A change of one list of listeners. -/
def changeWrapper (service : ServiceState B) (wrapper : Nat) (change : RemoteCallbackList B → RemoteCallbackList B) :
    ServiceState B :=
  { service with wrappers := service.wrappers.modify wrapper change }

def put (service : ServiceState B) (wrapper : Nat) (listener : B) : ServiceState B :=
  service.changeWrapper wrapper (·.register (service.isBinderAlive listener) listener)

def remove (service : ServiceState B) (wrapper : Nat) (listener : B) : ServiceState B :=
  service.changeWrapper wrapper (·.unregister listener)

def addListener (service : ServiceState B) (client : Nat) (command : CpuCommand) (listener : B) :
    Except Fault (ServiceState B) :=
  let (wrapper, service) := service.computeIfAbsent client command
  let isSubscribed := !(service.wrapper wrapper).isEmpty
  let service := service.put wrapper listener
  if !isSubscribed then service.call (.subscribe (service.pid client) command.cmd command.subCmd wrapper)
  else .ok service

def removeListener (service : ServiceState B) (client : Nat) (command : CpuCommand) (listener : B) :
    Except Fault (Bool × ServiceState B) :=
  match service.wrapperOf client command.key with
  | some wrapper =>
      let service := service.remove wrapper listener
      if (service.wrapper wrapper).isEmpty then do
        let service ← service.call (.unsubscribe (service.pid client) command.cmd command.subCmd)
        pure (true, service.changeCallbacks client (·.erase command.key))
      else .ok (true, service)
  | none => .ok (false, service)

/-- The wrapper of an error callback, which is registered in a list of its own. -/
def newErrorWrapper (service : ServiceState B) : Option B → Option Nat × ServiceState B
  | some listener =>
      let listenersList := RemoteCallbackList.new.register (service.isBinderAlive listener) listener
      let (wrapper, errorWrappers) := service.errorWrappers.alloc listenersList
      (some wrapper, { service with errorWrappers })
  | none => (none, service)

/-- A wrapper that is not null is destroyed. -/
def destroyErrorWrapper (service : ServiceState B) : Option Nat → ServiceState B
  | some wrapper => { service with errorWrappers := service.errorWrappers.modify wrapper .kill }
  | none => service

def setErrorCallback (service : ServiceState B) (client : Nat) (listener : Option B) :
    Except Fault (ServiceState B) := do
  let (newErrorCallback, service) := service.newErrorWrapper listener
  let service ← service.call (.setErrorCallback (service.pid client) newErrorCallback)
  let service := service.destroyErrorWrapper (service.client client).mErrorCallback
  pure { service with
    clients := service.clients.modify client fun object => { object with mErrorCallback := newErrorCallback } }

def send (service : ServiceState B) (client : Nat) (command : CpuCommand) : Except Fault (ServiceState B) :=
  service.call (.send (service.pid client) command.cmd command.subCmd command.bytes)

def hasAliveRemoteCallbacks (service : ServiceState B) (client : Nat) : Bool :=
  !(service.client client).mCallbacks.isEmpty || (service.client client).mErrorCallback.isSome

/-- A binder dies: no list has it any more, and what was linked to it is told. -/
def dies (service : ServiceState B) (binder : B) : ServiceState B :=
  { service with
    wrappers := service.wrappers.map (·.unregister binder)
    errorWrappers := service.errorWrappers.map (·.unregister binder)
    links := service.links.filter (·.1 ≠ binder)
    dead := binder :: service.dead }

/-- The listeners that a notification for a process reaches, and what they receive. -/
def onNotification (service : ServiceState B) (pid : Int) (command : Uart.CpuCommand) (data : Messaging.Data) :
    List (B × Received) :=
  (service.native.onNotification pid command data).flatMap fun
    | .callOnCommand (.onCommand wrapper) command data =>
        (service.wrapper wrapper).onCommand (widen command).1 (widen command).2 (data.map UInt8.toInt8)
    | _ => []

end ServiceState
end CpuCom.Service
