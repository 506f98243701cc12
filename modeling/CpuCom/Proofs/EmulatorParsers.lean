import CpuCom.Emulator.RulesBuilder
import CpuCom.Interaction.Records
import Mathlib.Data.List.Forall2

/-! What the emulator's parsers accept. The fields are numbers of bytes; where they are
something else, it depends on the parser and on the field what happens. -/

namespace CpuCom.Emulator
open Interaction
open Uart (CpuCommand)

def isNumber (field : List Char) : Bool := !field.isEmpty && field.all isxdigit

def IsByte (field : List Char) : Prop := isNumber field = true ∧ hexValue field ≤ 0xff

instance : DecidablePred IsByte := fun field =>
  inferInstanceAs (Decidable (isNumber field = true ∧ hexValue field ≤ 0xff))

def Denotes (field : List Char) (value : UInt8) : Prop := isNumber field = true ∧ hexValue field = value.toNat

def CommandText (s : List Char) (command : CpuCommand) : Prop :=
  ∃ first second rest, s.splitOn ',' = first :: second :: rest ∧ Denotes first command.1 ∧ Denotes second command.2

def DataText (s : List Char) (values : List UInt8) : Prop := List.Forall₂ Denotes (records ',' s) values

/-- A command is accepted if it is one, and is what is left; else the command is as before. -/
def CommandParsed (s : List Char) : Prop :=
  ∀ command, ∃ result after, commandFromString s command = .ok (result, after) ∧
    (result = true ↔ ∃ parsed, CommandText s parsed) ∧ (result = true → CommandText s after) ∧
    (result = false → after = command)

/-- Data is accepted if it is some, and is appended; else none is left. -/
def DataParsed (s : List Char) : Prop :=
  ∀ data, ∃ result after, dataFromString s data = .ok (result, after) ∧
    (result = true ↔ ∃ values, DataText s values) ∧
    (result = true → ∃ values, DataText s values ∧ after = data ++ values) ∧ (result = false → after = [])

def field (s : List Char) (n : Nat) : List Char := (s.splitOn ',').getD n []

/-- One of the first two fields is missing or empty, or both are numbers of bytes. -/
def FieldsFit (s : List Char) : Prop :=
  field s 0 = [] ∨ field s 1 = [] ∨ IsByte (field s 0) ∧ IsByte (field s 1)

/-- The records before one that is not a number fit into an integer, and if all are
numbers they are numbers of bytes. -/
def RecordsFit (s : List Char) : Prop :=
  (∀ record ∈ (records ',' s).takeWhile isNumber, hexValue record ≤ 0x7fffffff) ∧
    ((∀ record ∈ records ',' s, isNumber record = true) → ∀ record ∈ records ',' s, hexValue record ≤ 0xff)

instance : DecidablePred FieldsFit := fun s =>
  inferInstanceAs (Decidable (field s 0 = [] ∨ field s 1 = [] ∨ IsByte (field s 0) ∧ IsByte (field s 1)))

instance : DecidablePred RecordsFit := fun s => inferInstanceAs (Decidable
  ((∀ record ∈ (records ',' s).takeWhile isNumber, hexValue record ≤ 0x7fffffff) ∧
    ((∀ record ∈ records ',' s, isNumber record = true) → ∀ record ∈ records ',' s, hexValue record ≤ 0xff)))

variable {s text : List Char} {command : CpuCommand} {data : List UInt8}

theorem IsByte.denotes (byte : IsByte text) : Denotes text (UInt8.ofNat (hexValue text)) :=
  ⟨byte.1, (UInt8.toNat_ofNat_of_lt' (Nat.lt_succ_of_le byte.2)).symm⟩

theorem isByte_iff : IsByte text ↔ ∃ value, Denotes text value := by
  constructor
  · intro byte
    exact ⟨_, byte.denotes⟩
  · intro ⟨value, number, same⟩
    exact ⟨number, same ▸ Nat.le_of_lt_succ value.toNat_lt⟩

theorem bytes_of_denoted {records : List (List Char)} {values : List UInt8}
    (denoted : List.Forall₂ Denotes records values) : ∀ record ∈ records, IsByte record := by
  induction denoted with
  | nil => simp
  | cons first rest ih => exact List.forall_mem_cons.mpr ⟨isByte_iff.mpr ⟨_, first⟩, ih⟩

theorem commandText_iff : CommandText s command ↔ Denotes (field s 0) command.1 ∧ Denotes (field s 1) command.2 := by
  rw [field, field]
  constructor
  · intro ⟨first, second, rest, parts, denoted⟩
    rw [parts]
    exact denoted
  · intro ⟨first, second⟩
    cases parts : s.splitOn ',' with
    | nil => exact absurd parts (List.splitOn_ne_nil _ _)
    | cons one others =>
      rw [parts] at first second
      cases others with
      | nil => cases second.1
      | cons other rest => exact ⟨one, other, rest, parts, first, second⟩

theorem stoi_number (number : isNumber text = true) :
    stoi text = if 0x7fffffff < hexValue text then .error .outOfRange else .ok (hexValue text) := by
  rw [isNumber, Bool.and_eq_true, Bool.not_eq_true', List.all_eq_true] at number
  rw [stoi, List.takeWhile_eq_self_iff.mpr number.2, number.1]
  rfl

theorem field_last (absent : ',' ∉ text) : field text 0 = text ∧ field text 1 = [] := by
  rw [field, field, List.splitOn_eq_singleton absent]
  exact ⟨rfl, rfl⟩

theorem field_first {first rest : List Char} (absent : ',' ∉ first) :
    field (first ++ ',' :: rest) 0 = first ∧ field (first ++ ',' :: rest) 1 = field rest 0 := by
  rw [field, field, List.splitOn_append_cons_self_of_not_mem absent]
  exact ⟨rfl, rfl⟩

theorem getline_field (s : List Char) : ∃ good ss, getline (some s) ',' = (good, field s 0, ss) := by
  by_cases ended : ',' ∈ s
  · obtain ⟨first, rest, rfl, absent⟩ := List.eq_append_cons_of_mem ended
    rw [(field_first absent).1]
    exact ⟨_, _, getline_first absent⟩
  · rw [(field_last ended).1]
    exact ⟨_, _, getline_last ended⟩

theorem getline_fields (s : List Char) : ∃ good ss, getline (some s) ',' = (good, field s 0, ss) ∧
    ∃ good rest, getline ss ',' = (good, field s 1, rest) := by
  by_cases ended : ',' ∈ s
  · obtain ⟨first, rest, rfl, absent⟩ := List.eq_append_cons_of_mem ended
    rw [(field_first absent).1, (field_first absent).2]
    exact ⟨_, _, getline_first absent, getline_field rest⟩
  · rw [(field_last ended).1, (field_last ended).2]
    exact ⟨_, _, getline_last ended, _, _, rfl⟩

theorem commandFromString_fields (s : List Char) (command : CpuCommand) : commandFromString s command =
    if field s 0 = [] ∨ field s 1 = [] then .ok (false, command)
    else if isNumber (field s 0) && isNumber (field s 1) then do
      let first ← stoi (field s 0)
      let second ← stoi (field s 1)
      .ok (true, UInt8.ofNat first, UInt8.ofNat second)
    else .ok (true, command) := by
  obtain ⟨_, ss, read, _, _, again⟩ := getline_fields s
  rw [commandFromString, read]
  dsimp only
  rw [again]
  dsimp only
  by_cases missing : field s 0 = [] ∨ field s 1 = []
  · have invalid : (!(field s 0).isEmpty && !(field s 1).isEmpty) = false := by
      rcases missing with empty | empty <;> simp [empty]
    rw [if_pos missing, invalid]
    rfl
  · have valid : (!(field s 0).isEmpty) = true ∧ (!(field s 1).isEmpty) = true := by
      simpa [not_or] using missing
    rw [if_neg missing, isNumber, isNumber, valid.1, valid.2]
    rfl

theorem not_denotes_nil (value : UInt8) : ¬ Denotes [] value := fun denoted => Bool.false_ne_true denoted.1

theorem IsByte.stoi (byte : IsByte text) : stoi text = .ok (hexValue text) := by
  rw [stoi_number byte.1, if_neg (Nat.not_lt.mpr (Nat.le_trans byte.2 (by decide)))]

theorem commandParsed_iff : CommandParsed s ↔ FieldsFit s := by
  constructor
  · intro parsed
    obtain ⟨result, after, ran, accepted, -⟩ := parsed (0, 0)
    rw [commandFromString_fields] at ran
    by_cases missing : field s 0 = [] ∨ field s 1 = []
    · exact missing.elim .inl fun missing => .inr (.inl missing)
    · -- Where no field is missing, the parser accepts whatever it does not throw for.
      have valid : result = true := by
        rw [if_neg missing] at ran
        split at ran
        · cases first : stoi (field s 0) with
          | error fault =>
            rw [first] at ran
            cases ran
          | ok value =>
            cases second : stoi (field s 1) with
            | error fault =>
              rw [first, second] at ran
              cases ran
            | ok other =>
              rw [first, second] at ran
              cases ran
              rfl
        · cases ran
          rfl
      obtain ⟨command, text⟩ := accepted.mp valid
      obtain ⟨first, second⟩ := commandText_iff.mp text
      exact .inr (.inr ⟨isByte_iff.mpr ⟨_, first⟩, isByte_iff.mpr ⟨_, second⟩⟩)
  · intro fit command
    by_cases missing : field s 0 = [] ∨ field s 1 = []
    · have rejected : ¬ ∃ parsed, CommandText s parsed := by
        intro ⟨parsed, text⟩
        obtain ⟨first, second⟩ := commandText_iff.mp text
        rcases missing with empty | empty
        · exact not_denotes_nil _ (empty ▸ first)
        · exact not_denotes_nil _ (empty ▸ second)
      refine ⟨false, command, ?_, by simpa using rejected, by simp, fun _ => rfl⟩
      rw [commandFromString_fields, if_pos missing]
    · obtain ⟨first, second⟩ := (fit.resolve_left fun empty => missing (.inl empty)).resolve_left
        fun empty => missing (.inr empty)
      have text : CommandText s (UInt8.ofNat (hexValue (field s 0)), UInt8.ofNat (hexValue (field s 1))) :=
        commandText_iff.mpr ⟨first.denotes, second.denotes⟩
      refine ⟨true, _, ?_, iff_of_true rfl ⟨_, text⟩, fun _ => text, by simp⟩
      rw [commandFromString_fields, if_neg missing, first.1, second.1, first.stoi, second.stoi]
      rfl

theorem tokenizeFrom_end {ss rest : Stream} {delimiter : Char} {tokens : List (List Char)}
    (ended : getline ss delimiter = (false, text, rest)) : tokenizeFrom tokens ss delimiter = tokens := by
  rw [tokenizeFrom]
  split
  · rfl
  · rename_i read
    rw [ended] at read
    cases read

theorem tokenizeFrom_read {ss rest : Stream} {delimiter : Char} {tokens : List (List Char)}
    (read : getline ss delimiter = (true, text, rest)) :
    tokenizeFrom tokens ss delimiter = tokenizeFrom (tokens ++ [text]) rest delimiter := by
  rw [tokenizeFrom]
  split
  · rename_i ended
    rw [read] at ended
    cases ended
  · rename_i again
    rw [read] at again
    cases again
    rfl

theorem tokenize_eq_records (s : List Char) (delimiter : Char) : tokenize s delimiter = records delimiter s := by
  have appended : ∀ tokens, tokenizeFrom tokens (some s) delimiter = tokens ++ records delimiter s := by
    induction s using @records_induction _ _ delimiter with
    | nil =>
      intro tokens
      rw [tokenizeFrom_end rfl, records_nil, List.append_nil]
    | last text present absent =>
      intro tokens
      have good : (!text.isEmpty) = true := by simpa using present
      rw [tokenizeFrom_read (good ▸ getline_last absent), tokenizeFrom_end rfl, records_last present absent]
    | append first rest absent ih =>
      intro tokens
      rw [tokenizeFrom_read (getline_first absent), ih, records_append absent, List.append_assoc, List.singleton_append]
  exact appended []

theorem dataFromStream_end {ss rest : Stream} (ended : getline ss ',' = (false, text, rest)) :
    dataFromStream ss data = .ok (true, data) := by
  rw [dataFromStream]
  split
  · rfl
  · rename_i read
    rw [ended] at read
    cases read

theorem dataFromStream_read {ss rest : Stream} (read : getline ss ',' = (true, text, rest)) :
    dataFromStream ss data = if isNumber text then do
      let value ← stoi text
      dataFromStream rest (data ++ [UInt8.ofNat value])
    else .ok (false, []) := by
  rw [dataFromStream]
  split
  · rename_i ended
    rw [read] at ended
    cases ended
  · rename_i again
    rw [read] at again
    cases again
    rfl

/-- The loop over the stream, as one over its records. -/
def dataFromRecords : List (List Char) → List UInt8 → Except Fault (Bool × List UInt8)
  | [], data => .ok (true, data)
  | record :: records, data =>
      if isNumber record then do
        let value ← stoi record
        dataFromRecords records (data ++ [UInt8.ofNat value])
      else .ok (false, [])

theorem dataFromString_records (s : List Char) (data : List UInt8) :
    dataFromString s data = dataFromRecords (records ',' s) data := by
  rw [dataFromString]
  induction s using @records_induction _ _ ',' generalizing data with
  | nil =>
    rw [dataFromStream_end rfl, records_nil]
    rfl
  | last text present absent =>
    have good : (!text.isEmpty) = true := by simpa using present
    have ended : ∀ data, dataFromStream none data = .ok (true, data) := fun data => dataFromStream_end rfl
    rw [dataFromStream_read (good ▸ getline_last absent), records_last present absent, dataFromRecords]
    simp only [ended, dataFromRecords]
  | append first rest absent ih =>
    rw [dataFromStream_read (getline_first absent), records_append absent, dataFromRecords]
    simp only [ih]

/-- The numbers before a record that is none are read, so they decide whether the
parser throws. -/
theorem dataFromRecords_throws {records : List (List Char)} {result : Bool × List UInt8}
    (ran : dataFromRecords records data = .ok result) :
    ∀ record ∈ records.takeWhile isNumber, hexValue record ≤ 0x7fffffff := by
  induction records generalizing data with
  | nil => simp
  | cons record records ih =>
    rw [dataFromRecords] at ran
    split at ran
    · rename_i number
      rw [stoi_number number] at ran
      split at ran
      · cases ran
      · rename_i small
        rw [List.takeWhile_cons_of_pos number]
        exact List.forall_mem_cons.mpr ⟨Nat.not_lt.mp small, ih ran⟩
    · rename_i number
      rw [List.takeWhile_cons_of_neg number]
      simp

theorem dataFromRecords_eq {records : List (List Char)}
    (small : ∀ record ∈ records.takeWhile isNumber, hexValue record ≤ 0x7fffffff) :
    dataFromRecords records data = .ok (if records.all isNumber then
      (true, data ++ records.map fun record => UInt8.ofNat (hexValue record)) else (false, [])) := by
  induction records generalizing data with
  | nil => simp [dataFromRecords]
  | cons record records ih =>
    by_cases number : isNumber record = true
    · rw [List.takeWhile_cons_of_pos number, List.forall_mem_cons] at small
      rw [dataFromRecords, if_pos number, stoi_number number, if_neg (Nat.not_lt.mpr small.1)]
      change dataFromRecords _ _ = _
      rw [ih small.2, List.all_cons, number, Bool.true_and, List.map_cons, List.append_assoc, List.singleton_append]
    · rw [dataFromRecords, if_neg number, List.all_cons, Bool.eq_false_iff.mpr number]
      rfl

theorem dataParsed_iff : DataParsed s ↔ RecordsFit s := by
  constructor
  · intro parsed
    obtain ⟨result, after, ran, accepted, -⟩ := parsed []
    rw [dataFromString_records] at ran
    have small := dataFromRecords_throws ran
    refine ⟨small, fun numbers => ?_⟩
    rw [dataFromRecords_eq small, if_pos (List.all_eq_true.mpr numbers)] at ran
    cases ran
    obtain ⟨values, text⟩ := accepted.mp rfl
    exact fun record member => (bytes_of_denoted text record member).2
  · intro ⟨small, narrow⟩ data
    rw [dataFromString_records, dataFromRecords_eq small]
    by_cases numbers : ∀ record ∈ records ',' s, isNumber record = true
    · have text : DataText s ((records ',' s).map fun record => UInt8.ofNat (hexValue record)) := by
        refine List.forall₂_map_right_iff.mpr (List.forall₂_same.mpr fun record member => ?_)
        exact IsByte.denotes ⟨numbers record member, narrow numbers record member⟩
      rw [if_pos (List.all_eq_true.mpr numbers)]
      exact ⟨true, _, rfl, iff_of_true rfl ⟨_, text⟩, fun _ => ⟨_, text, rfl⟩, by simp⟩
    · rw [if_neg (mt List.all_eq_true.mp numbers)]
      have rejected : ¬ ∃ values, DataText s values :=
        fun ⟨values, text⟩ => numbers fun record member => (bytes_of_denoted text record member).1
      exact ⟨false, [], rfl, by simpa using rejected, by simp, fun _ => rfl⟩

/-- The parsers keep to their grammar exactly on these texts. -/
theorem parsers_accept_iff (s : List Char) : (CommandParsed s ↔ FieldsFit s) ∧ (DataParsed s ↔ RecordsFit s) :=
  ⟨commandParsed_iff, dataParsed_iff⟩

/-- A command without a number is accepted and not set, one that is too large is cut
off, and a number that is larger still makes the parser throw. -/
theorem misparsed : ¬ CommandParsed ['g', ',', '1'] ∧ ¬ CommandParsed ['1', '0', '0', ',', '1'] ∧
    ¬ DataParsed ['8', '0', '0', '0', '0', '0', '0', '0'] :=
  ⟨mt commandParsed_iff.mp (by decide), mt commandParsed_iff.mp (by decide), mt dataParsed_iff.mp (by decide)⟩

end CpuCom.Emulator
