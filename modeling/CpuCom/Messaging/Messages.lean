import CpuCom.Uart.Cpu
import Mathlib.Order.Defs.LinearOrder
import Std.Data.TreeMap.Lemmas

/-! The messages between the clients and the daemon, and the maps that both keep by
command. Sessions and UUIDs are ordered, as keys of a map or a set. -/

namespace CpuCom.Messaging
open Uart (CpuCommand)

abbrev Data := List UInt8

/-- Commands are ordered as pairs. -/
def compareCommands : CpuCommand → CpuCommand → Ordering := compareLex (compareOn Prod.fst) (compareOn Prod.snd)

instance : Std.TransCmp compareCommands :=
  inferInstanceAs (Std.TransCmp (compareLex (compareOn Prod.fst) (compareOn Prod.snd)))

instance : Std.LawfulEqCmp compareCommands where
  eq_of_compare := by
    intro first second same
    unfold compareCommands compareLex compareOn at same
    rw [Ordering.then_eq_eq] at same
    exact Prod.ext (Std.LawfulEqOrd.eq_of_compare same.1) (Std.LawfulEqOrd.eq_of_compare same.2)

abbrev CommandMap (β : Type) := Std.TreeMap CpuCommand β compareCommands

inductive ClientMessage (Id : Type) where
  | sendCommand (command : CpuCommand) (data : Data)
  | subscribe (command : CpuCommand)
  | unsubscribe (command : CpuCommand)
  | request (id : Id) (requestCommand : CpuCommand) (requestData : Data) (responseCommand : CpuCommand)
  | cancelRequest (id : Id)
  | sendCommandWithDeliveryStatus (id : Id) (command : CpuCommand) (data : Data)
deriving DecidableEq

inductive Error where
  | busy
deriving DecidableEq

inductive ServerMessage (Id : Type) where
  | notification (command : CpuCommand) (data : Data)
  | requestResponse (id : Id) (data : Data)
  | sendCommandResult (command : CpuCommand) (result : Error)
  | deliveryStatus (id : Id) (status : Bool)
deriving DecidableEq

end CpuCom.Messaging
