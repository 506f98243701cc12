import CpuCom.Emulator.Utils

/-! The actions that the emulator's rules are made of, `RulesBuilder.cpp`. -/

namespace CpuCom.Emulator
open Uart (CpuCommand)

variable {P : Type}

inductive Action (P : Type) where
  | send (command : CpuCommand) (data : List UInt8) (cpu : Option P)
  | print (format : String)
  | resend (cpu : Option P)
  | replace (command : CpuCommand) (data : List UInt8) (cpu : Option P)
  | nop
deriving DecidableEq

/-- What an action reads from its JSON object. The type is `none` if it is not a string;
of the others there is the text, which is empty if they are missing. -/
structure ActionObject where
  type : Option String
  command : List Char
  data : List Char
  format : String
deriving DecidableEq

structure RulesBuilder (P : Type) where
  mcpu : Option P
  vcpu : Option P
  currentCPU : Option P

namespace RulesBuilder

variable [DecidableEq P]

def createAction (builder : RulesBuilder P) (jsonObject : ActionObject) : Except Fault (Option (Action P)) :=
  let cpu := if builder.currentCPU = builder.vcpu then builder.mcpu else builder.vcpu
  match jsonObject.type with
  | none => .ok none
  | some type =>
      if type = "send" then do
        let (isValidCommand, command) ← commandFromString jsonObject.command (0, 0)
        let (isValidData, data) ← dataFromString jsonObject.data []
        .ok (if isValidCommand && isValidData then some (.send command data builder.currentCPU) else none)
      else if type = "print" then
        .ok (some (.print jsonObject.format))
      else if type = "resend" then
        .ok (some (.resend cpu))
      else if type = "replace" then do
        let (isValidCommand, command) ← commandFromString jsonObject.command (0, 0)
        let (isValidData, data) ← dataFromString jsonObject.data []
        .ok (if isValidCommand && isValidData then some (.replace command data cpu) else none)
      else if type = "nop" then
        .ok (some .nop)
      else
        .ok none

end RulesBuilder
end CpuCom.Emulator
