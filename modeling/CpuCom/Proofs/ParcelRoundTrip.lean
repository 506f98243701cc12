import CpuCom.Service.CpuCommand
import Mathlib.Data.List.Forall2

/-! What a reader makes of commands in a parcel. The writer asks whether there are
data and the reader whether their length is positive, so data that are there but
empty leave a length behind, and everything after them is read from there. -/

namespace CpuCom.Service
open Parcel

variable {β : Type} (parcel : Parcel β)

def CpuCommand.HasEmptyData (command : CpuCommand) : Prop := ∃ data, command.data = some data ∧ data.elements = []

/-- The list that is read holds the commands written, and the reader stands where the
values that follow them begin. -/
def ListRestored (commands : JavaArray CpuCommand) (following : List β) : Prop :=
  ∃ read, parcel.createTypedArrayList (CpuCommand.parcelable parcel)
      (parcel.writeTypedList (CpuCommand.parcelable parcel) commands ++ following) = some (some read, following) ∧
    List.Forall₂ (fun value command => ∃ back, value = some back ∧ CpuCommand.Same back command) read commands.elements

/-- The same for a command that is an argument by itself. -/
def ArgumentRestored (command : CpuCommand) (following : List β) : Prop :=
  ∃ back, parcel.readTyped (CpuCommand.parcelable parcel)
      (parcel.writeTyped (CpuCommand.parcelable parcel) command ++ following) = some (some back, following) ∧
    CpuCommand.Same back command

variable {parcel} {command : CpuCommand} {following rest : List β}

theorem readTyped_restored (filled : ¬ command.HasEmptyData) :
    parcel.readTyped (CpuCommand.parcelable parcel)
      (parcel.writeTyped (CpuCommand.parcelable parcel) command ++ rest) = some (some command, rest) := by
  apply readTyped_writeTyped
  obtain ⟨cmd, subCmd, data⟩ := command
  dsimp only [CpuCommand.parcelable, CpuCommand.writeToParcel, CpuCommand.createFromParcel]
  cases data with
  | none => simp [parcel.readInt_writeInt]
  | some data =>
    have positive : 0 < data.size := JavaArray.size_pos.mpr fun empty => filled ⟨data, rfl, empty⟩
    have read := parcel.readByteArray_writeByteArray data rest
    rw [List.append_assoc] at read
    simp [parcel.readInt_writeInt, writeByteArray, positive, read]

/-- The second length of empty data is left, with the bytes behind it. -/
theorem readTyped_left {data : JavaArray Int8} (given : command.data = some data) (empty : data.elements = []) :
    parcel.readTyped (CpuCommand.parcelable parcel)
      (parcel.writeTyped (CpuCommand.parcelable parcel) command ++ rest) =
        some (some { command with data := none }, parcel.writeInt 0 ++ (parcel.writeBytes data ++ rest)) := by
  apply readTyped_writeTyped
  have zero : data.size = 0 := by
    rw [JavaArray.size, empty]
    rfl
  dsimp only [CpuCommand.parcelable, CpuCommand.writeToParcel, CpuCommand.createFromParcel]
  simp [given, zero, parcel.readInt_writeInt, writeByteArray]

theorem readElements_restored {commands : List CpuCommand} (filled : ∀ command ∈ commands, ¬ command.HasEmptyData) :
    parcel.readElements (CpuCommand.parcelable parcel) commands.length
      (commands.flatMap (parcel.writeTyped (CpuCommand.parcelable parcel)) ++ rest) =
        some (commands.map some, rest) := by
  induction commands with
  | nil => rfl
  | cons command commands ih =>
    have first := filled command List.mem_cons_self
    have others := ih fun later member => filled later (List.mem_cons_of_mem _ member)
    rw [List.flatMap_cons, List.append_assoc, List.length_cons, readElements_cons (readTyped_restored first), others]
    rfl

theorem left_ne (data : JavaArray Int8) : parcel.writeInt 0 ++ (parcel.writeBytes data ++ rest) ≠ rest := by
  intro same
  have length := congrArg List.length same
  have positive := List.length_pos_iff.mpr (@writeInt_zero_ne_nil β parcel)
  simp only [List.length_append] at length
  omega

/-- Behind empty data the next element is read as null, and behind the last element
the reader stands too early. -/
theorem filled_of_restored {commands : List CpuCommand} {read : List (Option CpuCommand)}
    (ended : parcel.readElements (CpuCommand.parcelable parcel) commands.length
      (commands.flatMap (parcel.writeTyped (CpuCommand.parcelable parcel)) ++ rest) = some (read, rest))
    (same : List.Forall₂
      (fun value command => ∃ back, value = some back ∧ CpuCommand.Same back command) read commands) :
    ∀ command ∈ commands, ¬ command.HasEmptyData := by
  induction commands generalizing read with
  | nil => simp
  | cons command commands ih =>
    rw [List.flatMap_cons, List.append_assoc, List.length_cons] at ended
    by_cases filled : command.HasEmptyData
    · obtain ⟨data, given, empty⟩ := filled
      rw [readElements_cons (readTyped_left given empty)] at ended
      cases commands with
      | nil =>
        simp only [List.flatMap_nil, List.length_nil, readElements, Option.map_some, Option.some.injEq, Prod.mk.injEq,
          List.nil_append] at ended
        exact absurd ended.2 (left_ne data)
      | cons next commands =>
        rw [List.length_cons, readElements_cons (readTyped_zero _), Option.map_map, Option.map_eq_some_iff] at ended
        obtain ⟨later, _, shape⟩ := ended
        rw [Function.comp_apply, Prod.mk.injEq] at shape
        rw [← shape.1] at same
        obtain ⟨back, null, _⟩ := (List.forall₂_cons.mp (List.forall₂_cons.mp same).2).1
        cases null
    · rw [readElements_cons (readTyped_restored filled), Option.map_eq_some_iff] at ended
      obtain ⟨⟨values, left⟩, later, shape⟩ := ended
      obtain ⟨rfl, rfl⟩ := Prod.mk.inj shape
      intro other member
      rcases List.mem_cons.mp member with rfl | member
      · exact filled
      · exact ih later (List.forall₂_cons.mp same).2 other member

/-- Commands survive the parcel exactly when none of them has data that are empty
and not null. -/
theorem commands_restored_iff (parcel : Parcel β) (following : List β) :
    (∀ commands, ListRestored parcel commands following ↔ ∀ command ∈ commands.elements, ¬ command.HasEmptyData) ∧
      ∀ command, ArgumentRestored parcel command following ↔ ¬ command.HasEmptyData := by
  constructor
  · intro commands
    unfold ListRestored
    rw [createTypedArrayList_writeTypedList]
    constructor
    · intro ⟨read, ended, same⟩
      obtain ⟨⟨values, left⟩, later, shape⟩ := Option.map_eq_some_iff.mp ended
      simp only [Prod.mk.injEq, Option.some.injEq] at shape
      obtain ⟨rfl, rfl⟩ := shape
      exact filled_of_restored later same
    · intro filled
      refine ⟨commands.elements.map some, ?_, ?_⟩
      · rw [readElements_restored filled]
        rfl
      · rw [List.forall₂_map_left_iff, List.forall₂_same]
        intro command _
        exact ⟨command, rfl, rfl, rfl, rfl⟩
  · intro command
    constructor
    · rintro ⟨back, ended, _⟩ ⟨data, given, empty⟩
      rw [readTyped_left given empty, Option.some.injEq, Prod.mk.injEq] at ended
      exact left_ne data ended.2
    · intro filled
      exact ⟨command, readTyped_restored filled, rfl, rfl, rfl⟩

inductive Cell where
  | int (value : Int32)
  | bytes (array : JavaArray Int8)
deriving DecidableEq

def cells : Parcel Cell where
  writeInt value := [.int value]
  readInt
    | .int value :: rest => some (value, rest)
    | _ => none
  writeBytes array := [.bytes array]
  readByteArray
    | length, .int size :: .bytes array :: rest => if size = length ∧
        array.size = length then some (array, rest) else none
    | _, _ => none
  readInt_writeInt _ _ := rfl
  readByteArray_writeByteArray _ _ := if_pos ⟨rfl, rfl⟩

theorem commands_restored_cells :
    (∀ commands, ListRestored cells commands [.int 7] ↔ ∀ command ∈ commands.elements, ¬ command.HasEmptyData) ∧
      ∀ command, ArgumentRestored cells command [.int 7] ↔ ¬ command.HasEmptyData :=
  commands_restored_iff cells [.int 7]

/-- A single command with empty data, followed by one more value. -/
theorem command_not_restored :
    ¬ ∀ (β : Type) (parcel : Parcel β) command following, ArgumentRestored parcel command following := by
  intro claimed
  obtain ⟨back, ended, _⟩ := claimed Cell cells ⟨1, 1, some ⟨[], by decide⟩⟩ [.int 7]
  have left : cells.readTyped (CpuCommand.parcelable cells) (cells.writeTyped (CpuCommand.parcelable cells)
      ⟨1, 1, some ⟨[], by decide⟩⟩ ++ [.int 7]) =
        some (some ⟨1, 1, none⟩, [.int 0, .bytes ⟨[], by decide⟩, .int 7]) := by
    rfl
  rw [left] at ended
  cases ended

end CpuCom.Service
