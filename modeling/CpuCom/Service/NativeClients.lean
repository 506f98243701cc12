import CpuCom.Messaging.Client
import CpuCom.Service.CpuCommand

/-! The native part of the service, which keeps a `v2::CpuCom` for each process.
Objects of Java are known by their identity. A call through a pointer that is null
is a fault. -/

namespace CpuCom.Service
open Interaction

/-- What ends the process of the service: a null client that is to be destroyed, its
null binder or recipient, a recipient that is not linked, and a crash of the native part. -/
inductive Fault where
  | nullClient
  | nullBinder
  | nullRecipient
  | notLinked
  | nativeCrash
deriving DecidableEq

/-- The functions that the native part gives to a `v2::CpuCom`: one that calls a
`NativeCallbackWrapper`, and `callErrorCallback` for a process. -/
inductive NativeCallback where
  | onCommand (callback : Nat)
  | onError (pid : Int)
deriving DecidableEq

abbrev NativeClient := Messaging.Client Nat NativeCallback

inductive NativeCall where
  | create (pid : Int)
  | destroy (pid : Int)
  | send (pid : Int) (command subCommand : Int32) (data : List Int8)
  | setErrorCallback (pid : Int) (callback : Option Nat)
  | subscribe (pid : Int) (command subCommand : Int32) (callback : Nat)
  | unsubscribe (pid : Int) (command subCommand : Int32)
deriving DecidableEq

structure NativeClients where
  gClients : Std.TreeMap Int NativeClient
  gErrorCallbacks : Std.TreeMap Int (Option Nat)

/-- The conversions of two `int`s to a command of the library, and back. -/
def narrow (command subCommand : Int32) : Uart.CpuCommand := (command.toUInt32.toUInt8, subCommand.toUInt32.toUInt8)

def widen (command : Uart.CpuCommand) : Int32 × Int32 := (command.1.toUInt32.toInt32, command.2.toUInt32.toInt32)

theorem narrow_widen (command : Uart.CpuCommand) : narrow (widen command).1 (widen command).2 = command := by
  simp [narrow, widen]

/-- A number that fits is not changed. -/
theorem toInt32_toUInt8 {number : Int32} (low : 0 ≤ number) (high : number ≤ 255) :
    number.toUInt32.toUInt8.toUInt32.toInt32 = number := by
  have small : number.toUInt32.toNat ≤ 255 := by
    have same := Int32.cast_toNatClampNeg number low
    have bound : number.toInt ≤ 255 := Int32.le_iff_toInt_le.mp high
    rw [Int32.toNat_toUInt32_of_le low]
    omega
  have kept : number.toUInt32.toUInt8.toUInt32 = number.toUInt32 := by
    rw [← UInt32.toNat_inj, UInt8.toNat_toUInt32, UInt32.toNat_toUInt8]
    exact Nat.mod_eq_of_lt (Nat.lt_succ_of_le small)
  rw [kept, Int32.toInt32_toUInt32]

theorem widen_narrow {command : CpuCommand} (valid : command.isValid = true) :
    widen (narrow command.cmd command.subCmd) = (command.cmd, command.subCmd) := by
  obtain ⟨low, high, subLow, subHigh⟩ := of_decide_eq_true valid
  rw [widen, narrow, toInt32_toUInt8 low high, toInt32_toUInt8 subLow subHigh]

namespace NativeClients

def initial : NativeClients := ⟨∅, ∅⟩

/-- `insert` keeps a client that is there already; `initialize` sets its error callback. -/
def create (native : NativeClients) (pid : Int) : NativeClients :=
  let clients := native.gClients.insertIfNew pid (.initial none)
  { native with
    gClients := clients.insert pid { clients.getD pid (.initial none) with errorCallback := some (.onError pid) } }

/-- The library answers every call of its functions at once. -/
def answer (client : NativeClient) (call : Messaging.ClientCall Nat NativeCallback) :
    Option (Messaging.ClientReply NativeCallback × NativeClient) := some (client.perform call)

/-- A function of the `v2::CpuCom` of a process. -/
def call (native : NativeClients) (pid : Int) (program : Messaging.ClientProgram Nat NativeCallback Unit) :
    Except Fault NativeClients :=
  match native.gClients[pid]? with
  | none => .error .nativeCrash
  | some client =>
      match program.runOn answer client with
      | none => .error .nativeCrash
      | some (_, after) => .ok { native with gClients := native.gClients.insert pid after }

def perform (native : NativeClients) : NativeCall → Except Fault NativeClients
  | .create pid => .ok (native.create pid)
  | .destroy pid =>
      if pid ∈ native.gClients then .ok { native with gClients := native.gClients.erase pid } else .error .nativeCrash
  | .send pid command subCommand data =>
      native.call pid (Messaging.Client.send (narrow command subCommand) (data.map Int8.toUInt8))
  | .setErrorCallback pid callback => .ok { native with gErrorCallbacks := native.gErrorCallbacks.insert pid callback }
  | .subscribe pid command subCommand callback =>
      native.call pid (Messaging.Client.subscribe (narrow command subCommand) (some (.onCommand callback)))
  | .unsubscribe pid command subCommand => native.call pid (Messaging.Client.unsubscribe (narrow command subCommand))

variable {native : NativeClients} {pid : Int} {client : NativeClient} {command subCommand : Int32}

theorem mem_create {other : Int} : other ∈ (native.create pid).gClients ↔ other = pid ∨ other ∈ native.gClients := by
  simp only [create, Std.TreeMap.mem_insert, Std.TreeMap.mem_insertIfNew, Std.LawfulEqOrd.compare_eq_iff_eq]
  rw [← or_assoc, or_self, eq_comm]

theorem perform_send {data : List Int8} (found : native.gClients[pid]? = some client) :
    native.perform (.send pid command subCommand data) =
      .ok { native with gClients := native.gClients.insert pid client } := by
  rw [perform, call, found]
  rfl

theorem perform_subscribe {callback : Nat} (found : native.gClients[pid]? = some client) :
    native.perform (.subscribe pid command subCommand callback) = .ok { native with
      gClients := native.gClients.insert pid
        (client.perform (.addCallback (narrow command subCommand) (some (.onCommand callback)))).2 } := by
  have ran : (Messaging.Client.subscribe (narrow command subCommand) (some (.onCommand callback))).runOn answer client =
      some ((), (client.perform (.addCallback (narrow command subCommand) (some (.onCommand callback)))).2) := by
    rw [Messaging.Client.subscribe, Program.request_bind, Program.runOn_call rfl]
    split <;> rfl
  rw [perform, call, found]
  dsimp only
  rw [ran]

theorem perform_unsubscribe (found : native.gClients[pid]? = some client) :
    native.perform (.unsubscribe pid command subCommand) = .ok { native with
      gClients := native.gClients.insert pid
        { client with callbacks := client.callbacks.erase (narrow command subCommand) } } := by
  rw [perform, call, found]
  rfl

/-- A callback that is there already is kept. -/
theorem callbacks_addCallback {added other : Uart.CpuCommand} {callback : Option NativeCallback} :
    (client.perform (.addCallback added callback)).2.callbacks[other]? =
      if added = other then some ((client.callbacks[added]?).getD callback) else client.callbacks[other]? := by
  rw [Messaging.Client.perform]
  cases entry : client.callbacks[added]? with
  | some kept =>
    have present : client.callbacks.contains added = true := by
      rw [Std.TreeMap.contains_eq_isSome_getElem?, entry]
      rfl
    rw [if_pos present]
    split
    · rename_i same
      rw [← same, entry]
      rfl
    · rfl
  | none =>
    have missing : client.callbacks.contains added = false := by
      rw [Std.TreeMap.contains_eq_isSome_getElem?, entry]
      rfl
    have absent : added ∉ client.callbacks := by
      rw [← Std.TreeMap.contains_iff_mem, missing]
      exact Bool.false_ne_true
    rw [missing]
    simp [Std.TreeMap.getElem?_insertIfNew, absent]

/-- As before, with the calls so far. -/
def record (state : NativeClient × List (Messaging.ClientCall Nat NativeCallback))
    (call : Messaging.ClientCall Nat NativeCallback) :
    Option (Messaging.ClientReply NativeCallback × NativeClient × List (Messaging.ClientCall Nat NativeCallback)) :=
  (answer state.1 call).map fun result => (result.1, result.2, state.2 ++ [call])

/-- The calls that the handler of a notification makes. -/
def onNotification (native : NativeClients) (pid : Int) (command : Uart.CpuCommand) (data : Messaging.Data) :
    List (Messaging.ClientCall Nat NativeCallback) :=
  match native.gClients[pid]? with
  | none => []
  | some client =>
      match (Messaging.Client.onNotification command data).runOn record (client, []) with
      | none => []
      | some (_, _, calls) => calls

/-- The handler calls the callback of the command, if there is one. -/
theorem onNotification_eq {wanted : Uart.CpuCommand} {data : Messaging.Data}
    (found : native.gClients[pid]? = some client) :
    native.onNotification pid wanted data = .findCallback wanted ::
      ((client.callbacks.getD wanted none).map fun callback => .callOnCommand callback wanted data).toList := by
  have ran : (Messaging.Client.onNotification wanted data).runOn record (client, []) =
    some ((), client, .findCallback wanted ::
      ((client.callbacks.getD wanted none).map fun callback => .callOnCommand callback wanted data).toList) := by
    rw [Messaging.Client.onNotification, Program.request_bind, Program.runOn_call rfl]
    dsimp only [Messaging.Client.perform]
    cases client.callbacks.getD wanted none with
    | none => rfl
    | some callback => rfl
  rw [onNotification, found]
  dsimp only
  rw [ran]

end NativeClients
end CpuCom.Service
