import Mathlib.Algebra.Group.Nat.Defs
import Mathlib.Data.List.Basic

/-! The parcels in which the service and its clients pass arguments. A writer is
known by what it appends to the parcel, a reader by what it takes from the rest of
it. Only the promises of the platform are assumed of the values themselves. -/

namespace CpuCom.Service

/-- A Java array or list; its size is an `int`. -/
structure JavaArray (α : Type) where
  elements : List α
  bounded : elements.length < 2 ^ 31
deriving DecidableEq

variable {α β γ : Type}

def JavaArray.size (array : JavaArray α) : Int32 := Int32.ofNat array.elements.length

theorem JavaArray.size_toInt (array : JavaArray α) : array.size.toInt = array.elements.length :=
  Int32.toInt_ofNat_of_lt array.bounded

theorem JavaArray.size_pos {array : JavaArray α} : 0 < array.size ↔ array.elements ≠ [] := by
  rw [Int32.lt_iff_toInt_lt, array.size_toInt, Int32.toInt_zero, ← List.length_pos_iff]
  exact Int.natCast_pos

/-- What is assumed of a parcel: an `int` is read as it was written, and a byte
array, which is written behind its length, into an array of that length. -/
structure Parcel (β : Type) where
  writeInt : Int32 → List β
  readInt : List β → Option (Int32 × List β)
  writeBytes : JavaArray Int8 → List β
  readByteArray : Int32 → List β → Option (JavaArray Int8 × List β)
  readInt_writeInt : ∀ value rest, readInt (writeInt value ++ rest) = some (value, rest)
  readByteArray_writeByteArray : ∀ array rest,
    readByteArray array.size (writeInt array.size ++ writeBytes array ++ rest) = some (array, rest)

/-- How a class is written to a parcel and created from one. -/
structure Parcelable (β α : Type) where
  writeToParcel : α → List β
  createFromParcel : List β → Option (α × List β)

namespace Parcel
variable (parcel : Parcel β) (parcelable : Parcelable β α)

def writeByteArray (array : JavaArray Int8) : List β := parcel.writeInt array.size ++ parcel.writeBytes array

/-- A value that is not null, as the generated code writes an argument and a list element. -/
def writeTyped (value : α) : List β := parcel.writeInt 1 ++ parcelable.writeToParcel value

def readTyped (input : List β) : Option (Option α × List β) := do
  let (flag, rest) ← parcel.readInt input
  if flag ≠ 0 then
    let (value, rest) ← parcelable.createFromParcel rest
    pure (some value, rest)
  else pure (none, rest)

def writeTypedList (list : JavaArray α) : List β :=
  parcel.writeInt list.size ++ list.elements.flatMap (parcel.writeTyped parcelable)

/-- The loop of `createTypedArrayList`. -/
def readElements : Nat → List β → Option (List (Option α) × List β)
  | 0, input => some ([], input)
  | count + 1, input => do
      let (value, rest) ← parcel.readTyped parcelable input
      let (values, rest) ← readElements count rest
      pure (value :: values, rest)

/-- A negative count stands for a list that is null. -/
def createTypedArrayList (input : List β) : Option (Option (List (Option α)) × List β) := do
  let (count, rest) ← parcel.readInt input
  if count < 0 then pure (none, rest)
  else
    let (values, rest) ← parcel.readElements parcelable count.toNatClampNeg rest
    pure (some values, rest)

variable {parcel parcelable}

/-- Two different values cannot both be written as nothing. -/
theorem writeInt_zero_ne_nil : parcel.writeInt 0 ≠ [] := by
  intro nothing
  have written := parcel.readInt_writeInt 1 []
  have read := parcel.readInt_writeInt 0 (parcel.writeInt 1 ++ [])
  rw [nothing, List.nil_append, written, Option.some.injEq, Prod.mk.injEq] at read
  exact absurd read.1 (by decide)

theorem readTyped_writeTyped {value read : α} {rest left : List β}
    (created : parcelable.createFromParcel (parcelable.writeToParcel value ++ rest) = some (read, left)) :
    parcel.readTyped parcelable (parcel.writeTyped parcelable value ++ rest) = some (some read, left) := by
  simp [readTyped, writeTyped, parcel.readInt_writeInt, created]

/-- A zero where an element is expected stands for null. -/
theorem readTyped_zero (rest : List β) :
    parcel.readTyped parcelable (parcel.writeInt 0 ++ rest) = some (none, rest) := by
  simp [readTyped, parcel.readInt_writeInt]

theorem readElements_cons {count : Nat} {input middle : List β} {value : Option α}
    (first : parcel.readTyped parcelable input = some (value, middle)) :
    parcel.readElements parcelable (count + 1) input =
      (parcel.readElements parcelable count middle).map fun read => (value :: read.1, read.2) := by
  rw [readElements, first]
  simp only [Option.bind_eq_bind, Option.bind_some]
  cases parcel.readElements parcelable count middle <;> rfl

/-- The list comes back as its elements do, and the count is not among them. -/
theorem createTypedArrayList_writeTypedList (list : JavaArray α) (rest : List β) :
    parcel.createTypedArrayList parcelable (parcel.writeTypedList parcelable list ++ rest) =
      (parcel.readElements parcelable list.elements.length
        (list.elements.flatMap (parcel.writeTyped parcelable) ++ rest)).map fun read => (some read.1, read.2) := by
  have count : list.size.toNatClampNeg = list.elements.length := by
    rw [← Int32.toNat_toInt, list.size_toInt, Int.toNat_natCast]
  have positive : ¬ list.size < 0 := by
    rw [Int32.lt_iff_toInt_lt, list.size_toInt, Int32.toInt_zero]
    omega
  rw [createTypedArrayList, writeTypedList, List.append_assoc, parcel.readInt_writeInt]
  simp only [Option.bind_eq_bind, Option.bind_some, if_neg positive, count]
  cases parcel.readElements parcelable list.elements.length
    (list.elements.flatMap (parcel.writeTyped parcelable) ++ rest) <;> rfl

end Parcel
end CpuCom.Service
