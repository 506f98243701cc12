import CpuCom.Emulator.CommandLine
import CpuCom.Proofs.EmulatorParsers

/-! The texts of a message. What the emulator shows of a message can be given to its
command line, and is the same message there. -/

namespace CpuCom.Emulator
open Interaction
open Uart (CpuCommand)

private theorem hexText_bytes : ∀ value < 256, isNumber (hexText value) = true ∧ hexValue (hexText value) = value ∧
    ',' ∉ hexText value ∧ ' ' ∉ hexText value := by
  decide +kernel

private theorem padded_bytes : ∀ value < 256, isNumber ((hexText value).leftpad 2 '0') = true ∧
    hexValue ((hexText value).leftpad 2 '0') = value ∧ ',' ∉ (hexText value).leftpad 2 '0' ∧
    ' ' ∉ (hexText value).leftpad 2 '0' := by
  decide +kernel

theorem dataText_eq (data : List UInt8) : dataText data = joined ',' (data.map fun byte => hexText byte.toNat) := by
  rcases List.eq_nil_or_concat data with rfl | ⟨first, back, rfl⟩
  · rfl
  · rw [List.concat_eq_append, dataText, List.getLast?_concat, List.dropLast_concat, joined, List.map_append,
      List.flatMap_append, List.map_singleton, List.flatMap_singleton, ← List.append_assoc, List.dropLast_concat,
      List.flatMap_map]

theorem records_dataText (data : List UInt8) :
    records ',' (dataText data) = data.map fun byte => hexText byte.toNat := by
  rw [dataText_eq]
  refine records_joined (fun text member => ?_) fun last => ?_
  · obtain ⟨byte, -, rfl⟩ := List.mem_map.mp member
    exact (hexText_bytes _ byte.toNat_lt).2.2.1
  · obtain ⟨byte, -, empty⟩ := List.mem_map.mp (List.mem_of_getLast? last)
    have number := (hexText_bytes _ byte.toNat_lt).1
    rw [empty] at number
    exact Bool.false_ne_true number

theorem dataFromString_dataText (data : List UInt8) : dataFromString (dataText data) [] = .ok (true, data) := by
  have numbers : ∀ record ∈ records ',' (dataText data), isNumber record = true ∧ hexValue record ≤ 0x7fffffff := by
    rw [records_dataText]
    intro record member
    obtain ⟨byte, -, rfl⟩ := List.mem_map.mp member
    obtain ⟨number, value, -⟩ := hexText_bytes _ byte.toNat_lt
    exact ⟨number, value.trans_le (Nat.le_trans (Nat.le_of_lt byte.toNat_lt) (by decide))⟩
  have all := List.all_eq_true.mpr fun record member => (numbers record member).1
  rw [dataFromString_records, dataFromRecords_eq fun record member =>
    (numbers record ((List.takeWhile_sublist _).subset member)).2, if_pos all, records_dataText, List.map_map]
  have bytes : data.map ((fun record => UInt8.ofNat (hexValue record)) ∘ fun byte => hexText byte.toNat) = data := by
    refine (List.map_congr_left fun byte _ => ?_).trans (List.map_id _)
    rw [Function.comp_apply, (hexText_bytes _ byte.toNat_lt).2.1]
    exact UInt8.ofNat_toNat
  rw [bytes, List.nil_append]

private theorem commandText_fields (command : CpuCommand) :
    field (commandText command) 0 = (hexText command.1.toNat).leftpad 2 '0' ∧
      field (commandText command) 1 = (hexText command.2.toNat).leftpad 2 '0' := by
  obtain ⟨first, second⟩ : field (commandText command) 0 = (hexText command.1.toNat).leftpad 2 '0' ∧
      field (commandText command) 1 = field ((hexText command.2.toNat).leftpad 2 '0') 0 :=
    field_first (padded_bytes _ command.1.toNat_lt).2.2.1
  exact ⟨first, second.trans (field_last (padded_bytes _ command.2.toNat_lt).2.2.1).1⟩

private theorem padded_isByte (byte : UInt8) : IsByte ((hexText byte.toNat).leftpad 2 '0') ∧
    UInt8.ofNat (hexValue ((hexText byte.toNat).leftpad 2 '0')) = byte := by
  obtain ⟨number, value, -⟩ := padded_bytes _ byte.toNat_lt
  rw [IsByte, value]
  exact ⟨⟨number, Nat.le_of_lt_succ byte.toNat_lt⟩, UInt8.ofNat_toNat⟩

theorem commandFromString_commandText (command before : CpuCommand) :
    commandFromString (commandText command) before = .ok (true, command) := by
  obtain ⟨first, second⟩ := commandText_fields command
  obtain ⟨byte, value⟩ := padded_isByte command.1
  obtain ⟨subByte, subValue⟩ := padded_isByte command.2
  have present (field : List Char) (byte : IsByte field) : field ≠ [] := by
    rintro rfl
    exact Bool.false_ne_true byte.1
  rw [commandFromString_fields, first, second, if_neg (not_or.mpr ⟨present _ byte, present _ subByte⟩), byte.1,
    subByte.1, byte.stoi, subByte.stoi]
  change Except.ok (true, UInt8.ofNat _, UInt8.ofNat _) = _
  rw [value, subValue]

private theorem texts_unbroken (command : CpuCommand) (data : List UInt8) :
    ' ' ∉ commandText command ∧ ' ' ∉ dataText data := by
  refine ⟨?_, ?_⟩
  · rw [commandText, List.mem_append, List.mem_cons, not_or, not_or]
    exact ⟨(padded_bytes _ command.1.toNat_lt).2.2.2, by decide, (padded_bytes _ command.2.toNat_lt).2.2.2⟩
  · intro broken
    rw [dataText_eq] at broken
    obtain ⟨text, there, inside⟩ := List.mem_flatMap.mp (List.dropLast_sublist _ |>.subset broken)
    obtain ⟨byte, -, rfl⟩ := List.mem_map.mp there
    rcases List.mem_append.mp inside with inside | inside
    · exact (hexText_bytes _ byte.toNat_lt).2.2.2 inside
    · exact absurd inside (by decide)

theorem commandText_ne_nil (command : CpuCommand) : commandText command ≠ [] := by
  rw [commandText]
  exact List.append_ne_nil_of_right_ne_nil _ (List.cons_ne_nil _ _)

/-- The arguments before the data come out as they are, and the data where there are some. -/
private theorem tokenize_message {args : List (List Char)} (command : CpuCommand) (data : List UInt8)
    (unbroken : ∀ arg ∈ args, ' ' ∉ arg) :
    (cliInput (args ++ [commandText command, dataText data])).map (tokenize · ' ') =
      some (args ++ commandText command :: if data.isEmpty then [] else [dataText data]) := by
  obtain ⟨whole, wholeData⟩ := texts_unbroken command data
  have absent : ∀ text ∈ args ++ [commandText command], ' ' ∉ text := by
    intro text member
    rcases List.mem_append.mp member with member | member
    · exact unbroken text member
    · rw [List.mem_singleton.mp member]
      exact whole
  have some : cliInput (args ++ [commandText command, dataText data]) =
      some (joined ' ' (args ++ [commandText command, dataText data])) :=
    if_neg (by simp)
  rw [some, Option.map_some, tokenize_eq_records]
  refine congrArg Option.some ?_
  cases data with
  | nil =>
    have last : (args ++ [commandText command]).getLast? ≠ Option.some [] := by
      rw [List.getLast?_concat]
      exact fun same => commandText_ne_nil command (Option.some.inj same)
    have lost := records_joined_nil absent last (by simp)
    rwa [List.append_assoc] at lost
  | cons first rest =>
    refine records_joined ?_ ?_
    · intro text member
      rw [List.append_cons] at member
      rcases List.mem_append.mp member with member | member
      · exact absent text member
      · rw [List.mem_singleton.mp member]
        exact wholeData
    · have present : dataText (first :: rest) ≠ [] := by
        intro empty
        have bytes := records_dataText (first :: rest)
        rw [empty] at bytes
        cases bytes
      rw [List.append_cons, List.getLast?_concat]
      exact fun same => present (Option.some.inj same)

private theorem parseMessage_texts (command : CpuCommand) (data : List UInt8) :
    parseMessage (commandText command :: if data.isEmpty then [] else [dataText data]) = .ok (some (command, data)) := by
  rw [parseMessage, commandFromString_commandText]
  cases data with
  | nil => rfl
  | cons first rest =>
    change (dataFromString (dataText (first :: rest)) [] >>= fun result => Except.ok (some (command, result.2))) = _
    rw [dataFromString_dataText]
    rfl

private theorem stoi10_toDigits {interval : Nat} (small : interval ≤ 0x7fffffff) :
    stoi10 (Nat.toDigits 10 interval) = .ok interval := by
  have present : (Nat.toDigits 10 interval).isEmpty = false := by
    rw [List.isEmpty_eq_false_iff]
    exact Nat.toDigits_ne_nil
  rw [stoi10, Nat.ofDigitChars_ten_toDigits, present]
  exact if_neg (Nat.not_lt.mpr small)

private theorem handled_tokens {input : Option (List Char)} {tokens : List (List Char)}
    {result : Except Fault (Option CliCall)} (split : input.map (tokenize · ' ') = some tokens)
    (reads : ∀ input, tokenize input ' ' = tokens → handler input = result) : input.map handler = some result := by
  obtain ⟨text, rfl, same⟩ := Option.map_eq_some_iff.mp split
  exact congrArg some (reads text same)

/-- What is shown of a message can be sent, once or again and again. -/
theorem shown_message_sent (command : CpuCommand) (data : List UInt8) :
    (cliInput ["send".toList, commandText command, dataText data]).map handler = some (.ok (some (.send command data))) ∧
      ∀ name interval, ' ' ∉ name → 0 < interval → interval ≤ 0x7fffffff →
        (cliInput ["repeat".toList, name, Nat.toDigits 10 interval, commandText command, dataText data]).map handler =
          some (.ok (some (.repeat name command data interval))) := by
  constructor
  · have split := @tokenize_message ["send".toList] command data (by decide)
    refine handled_tokens split fun input tokens => ?_
    rw [handler, tokens]
    change (parseMessage (commandText command :: if data.isEmpty then [] else [dataText data]) >>= _) = _
    rw [parseMessage_texts]
    rfl
  · intro name interval unbroken positive small
    have digits : ∀ digit ∈ Nat.toDigits 10 interval, digit.isDigit = true := fun digit member =>
      Nat.isDigit_of_mem_toDigits (by decide) (by decide) member
    have split := @tokenize_message ["repeat".toList, name, Nat.toDigits 10 interval] command data <| by
      intro arg member
      simp only [List.mem_cons, List.not_mem_nil, or_false] at member
      rcases member with rfl | rfl | rfl
      · decide
      · exact unbroken
      · exact fun blank => absurd (digits ' ' blank) (by decide)
    refine handled_tokens split fun input tokens => ?_
    rw [handler, tokens]
    change parseRepeat (name :: Nat.toDigits 10 interval :: commandText command ::
      if data.isEmpty then [] else [dataText data]) = _
    rw [parseRepeat, if_pos (List.all_eq_true.mpr digits), stoi10_toDigits small]
    change (if (!false && decide (interval ≠ 0)) = true then
      parseMessage (commandText command :: if data.isEmpty then [] else [dataText data]) >>= _ else _) = _
    rw [parseMessage_texts, if_pos (by simpa using Nat.ne_of_gt positive)]
    rfl

theorem shown_message_repeated :
    (cliInput ["send".toList, commandText (0x95, 1), dataText [0, 255]]).map handler =
      some (.ok (some (.send (0x95, 1) [0, 255]))) ∧
    (cliInput ["repeat".toList, ['t'], "100".toList, commandText (0x95, 1), dataText [0, 255]]).map handler =
      some (.ok (some (.repeat ['t'] (0x95, 1) [0, 255] 100))) :=
  have ⟨once, again⟩ := shown_message_sent (0x95, 1) [0, 255]
  ⟨once, again ['t'] 100 (by decide) (by decide) (by decide)⟩

end CpuCom.Emulator
