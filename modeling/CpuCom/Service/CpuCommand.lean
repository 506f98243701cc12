import CpuCom.Service.Parcel

/-! `CpuCommand`, the command that applications and the service exchange. -/

namespace CpuCom.Service

structure CpuCommand where
  cmd : Int32
  subCmd : Int32
  data : Option (JavaArray Int8)
deriving DecidableEq

namespace CpuCommand

/-- Data that are null hold nothing, as empty data do. -/
def bytes (command : CpuCommand) : List Int8 :=
  match command.data with
  | none => []
  | some array => array.elements

/-- Null and empty data count as the same. -/
def Same (command other : CpuCommand) : Prop :=
  command.cmd = other.cmd ∧ command.subCmd = other.subCmd ∧ command.bytes = other.bytes

def isValid (command : CpuCommand) : Bool :=
  decide (0 ≤ command.cmd ∧ command.cmd ≤ 255 ∧ 0 ≤ command.subCmd ∧ command.subCmd ≤ 255)

variable {β : Type} (parcel : Parcel β)

def writeToParcel (command : CpuCommand) : List β :=
  parcel.writeInt command.cmd ++ parcel.writeInt command.subCmd ++
    match command.data with
    | some data => parcel.writeInt data.size ++ parcel.writeByteArray data
    | none => parcel.writeInt 0

/-- The constructor that takes a parcel. -/
def createFromParcel (input : List β) : Option (CpuCommand × List β) := do
  let (cmd, rest) ← parcel.readInt input
  let (subCmd, rest) ← parcel.readInt rest
  let (length, rest) ← parcel.readInt rest
  if 0 < length then
    let (data, rest) ← parcel.readByteArray length rest
    pure (⟨cmd, subCmd, some data⟩, rest)
  else pure (⟨cmd, subCmd, none⟩, rest)

def parcelable : Parcelable β CpuCommand := ⟨writeToParcel parcel, createFromParcel parcel⟩

end CpuCommand
end CpuCom.Service
