import CpuCom.Service.Executor
import Mathlib.Data.Nat.Digits.Defs

/-! The permissions of the service. `CpuComServiceImpl` asks for the permission of a
command when a process sends or subscribes to it, before anything is queued. What the
platform has granted to a process may change at any time. -/

namespace CpuCom.Service

/-- A digit of `%X`. -/
def hexDigit (digit : Nat) : Char := if digit < 10 then Char.ofNat (48 + digit) else Char.ofNat (55 + digit)

/-- `%02X` of an `int`, which is written without a sign. -/
def formatHex (number : Int32) : List Char :=
  ((Nat.digits 16 number.toUInt32.toNat).reverse.map hexDigit).leftpad 2 '0'

/-- What `checkCallingPermission` answers about a process. -/
abbrev Granted := Int → List Char → Bool

namespace PermissionChecker

def permissionNamePrefix : List Char := "com.mitsubishielectric.ahu.efw.cpucomservice.permission.cmd_".toList

def getPermissionName (command : CpuCommand) : List Char :=
  permissionNamePrefix ++ formatHex command.cmd ++ formatHex command.subCmd

def isAccessGranted (granted : Granted) (pid : Int) (command : CpuCommand) : Bool :=
  granted pid (getPermissionName command)

end PermissionChecker

variable {B : Type}

/-- Only `sendCmd` and `subscribeCB` ask. -/
def ServiceCall.isAccessGranted (granted : Granted) : ServiceCall B → Bool
  | .sendCmd pid command | .subscribeCB pid command _ => PermissionChecker.isAccessGranted granted pid command
  | .unsubscribeCB _ _ _ | .subscribeErrorCB _ _ | .unsubscribeErrorCB _ => true

/-- The service and what the platform has granted. -/
structure GuardedService (B : Type) [LinearOrder B] where
  executor : Executor B
  granted : Granted

inductive GuardedEvent (B : Type) where
  | calls (call : ServiceCall B)
  | grants (granted : Granted)
  | dies (binder : B)
  | binderDied (observer : ClientDeathObserver)
  | runs

namespace GuardedService
variable [LinearOrder B]

def initial (granted : Granted) : GuardedService B := ⟨.initial, granted⟩

/-- The executor goes on. -/
def advance (service : GuardedService B) (event : ExecutorEvent B) : Except Fault (GuardedService B) := do
  let executor ← service.executor.step event
  pure { service with executor }

/-- A call that is declined queues a task that only logs. -/
def step (service : GuardedService B) : GuardedEvent B → Except Fault (GuardedService B)
  | .calls call => if call.isAccessGranted service.granted then service.advance (.calls call) else .ok service
  | .grants granted => .ok { service with granted }
  | .dies binder => service.advance (.dies binder)
  | .binderDied observer => service.advance (.binderDied observer)
  | .runs => service.advance .runs

/-- What the executor is given: the calls that are permitted when they come in, and
everything that is not a call. -/
def admitted (granted : Granted) : List (GuardedEvent B) → List (ExecutorEvent B)
  | [] => []
  | .calls call :: events =>
      if call.isAccessGranted granted then .calls call :: admitted granted events else admitted granted events
  | .grants now :: events => admitted now events
  | .dies binder :: events => .dies binder :: admitted granted events
  | .binderDied observer :: events => .binderDied observer :: admitted granted events
  | .runs :: events => .runs :: admitted granted events

end GuardedService
end CpuCom.Service
