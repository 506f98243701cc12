import CpuCom.Uart.Cpu
import Mathlib.Data.List.TakeWhile

/-! The emulator's parsers, `Utils.cpp`. -/

namespace CpuCom.Emulator
open Uart (CpuCommand)

/-- What is left of a string stream. It is `none` once the end was met. -/
abbrev Stream := Option (List Char)

/-- What `std::stoi` throws. -/
inductive Fault where
  | invalidArgument
  | outOfRange
deriving DecidableEq

/-- Into an empty string. It fails if nothing could be extracted. -/
def getline (ss : Stream) (delimiter : Char) : Bool × List Char × Stream :=
  match ss with
  | none => (false, [], none)
  | some text =>
      let token := text.takeWhile (· ≠ delimiter)
      match text.dropWhile (· ≠ delimiter) with
      | [] => (!token.isEmpty, token, none)
      | _ :: rest => (true, token, some rest)

def isxdigit (a : Char) : Bool := a.isDigit || ('a' ≤ a && a ≤ 'f') || ('A' ≤ a && a ≤ 'F')

def digitValue (a : Char) : Nat :=
  if a.isDigit then a.toNat - '0'.toNat else if 'a' ≤ a then a.toNat - 'a'.toNat + 10 else a.toNat - 'A'.toNat + 10

def hexValue (digits : List Char) : Nat := digits.foldl (fun value a => 16 * value + digitValue a) 0

/-- To base 16, of a text that begins with its digits. -/
def stoi (text : List Char) : Except Fault Nat :=
  let digits := text.takeWhile isxdigit
  if digits.isEmpty then .error .invalidArgument
  else if 0x7fffffff < hexValue digits then .error .outOfRange
  else .ok (hexValue digits)

theorem getline_shrinks {ss rest : Stream} {delimiter : Char} {token : List Char}
    (read : getline ss delimiter = (true, token, rest)) :
    rest.elim 0 (·.length + 1) < ss.elim 0 (·.length + 1) := by
  cases ss with
  | none => cases read
  | some text =>
    rw [getline] at read
    split at read
    · obtain ⟨-, -, rfl⟩ : _ ∧ _ ∧ none = rest := by simpa using read
      exact Nat.succ_pos _
    · rename_i left
      cases read
      have shorter := (List.dropWhile_suffix (l := text) (· ≠ delimiter)).length_le
      rw [left, List.length_cons] at shorter
      exact Nat.succ_lt_succ shorter

/-- The text of a stream is one token up to its end, or up to the delimiter. -/
theorem getline_last {text : List Char} {delimiter : Char} (absent : delimiter ∉ text) :
    getline (some text) delimiter = (!text.isEmpty, text, none) := by
  have all : ∀ a ∈ text, decide (a ≠ delimiter) = true := by
    intro a member
    exact decide_eq_true (ne_of_mem_of_not_mem member absent)
  rw [getline, List.takeWhile_eq_self_iff.mpr all, List.dropWhile_eq_nil_iff.mpr all]

theorem getline_first {first rest : List Char} {delimiter : Char} (absent : delimiter ∉ first) :
    getline (some (first ++ delimiter :: rest)) delimiter = (true, first, some rest) := by
  have all : ∀ a ∈ first, decide (a ≠ delimiter) = true := by
    intro a member
    exact decide_eq_true (ne_of_mem_of_not_mem member absent)
  rw [getline, List.takeWhile_append_of_pos all, List.dropWhile_append_of_pos all]
  simp

def tokenizeFrom (tokens : List (List Char)) (ss : Stream) (delimiter : Char) : List (List Char) :=
  match _read : getline ss delimiter with
  | (false, _, _) => tokens
  | (true, i, rest) => tokenizeFrom (tokens ++ [i]) rest delimiter
termination_by ss.elim 0 (·.length + 1)
decreasing_by exact getline_shrinks _read

def tokenize (s : List Char) (delimiter : Char) : List (List Char) := tokenizeFrom [] (some s) delimiter

/-- The validity that is returned is the one that is set before the digits are looked at. -/
def commandFromString (s : List Char) (command : CpuCommand) : Except Fault (Bool × CpuCommand) :=
  let (_, cmd, ss) := getline (some s) ','
  let (_, subcmd, _) := getline ss ','
  let valid := !cmd.isEmpty && !subcmd.isEmpty
  if valid then
    let b1 := cmd.all isxdigit
    let b2 := subcmd.all isxdigit
    let shadowing := b1 && b2
    if shadowing then do
      let first ← stoi cmd
      let second ← stoi subcmd
      .ok (valid, UInt8.ofNat first, UInt8.ofNat second)
    else
      .ok (valid, command)
  else
    .ok (valid, command)

def dataFromStream (ss : Stream) (data : List UInt8) : Except Fault (Bool × List UInt8) :=
  match _read : getline ss ',' with
  | (false, _, _) => .ok (true, data)
  | (true, d, rest) =>
      if !d.isEmpty && d.all isxdigit then do
        let value ← stoi d
        dataFromStream rest (data ++ [UInt8.ofNat value])
      else
        .ok (false, [])
termination_by ss.elim 0 (·.length + 1)
decreasing_by exact getline_shrinks _read

def dataFromString (s : List Char) (data : List UInt8) : Except Fault (Bool × List UInt8) :=
  dataFromStream (some s) data

end CpuCom.Emulator
