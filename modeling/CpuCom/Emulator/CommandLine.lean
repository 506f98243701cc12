import CpuCom.Emulator.RulesBuilder
import CpuCom.Interaction.Records

/-! The command line of the emulator: what `cli.cpp` sends, how `main.cpp` reads it,
and the texts in which the rules and the printed messages show a command and data. -/

namespace CpuCom.Emulator
open Interaction
open Uart (CpuCommand)

/-- A number as a stream with `std::hex` writes it. -/
def hexText (value : Nat) : List Char := Nat.toDigits 16 value

/-- What the pattern of a rule is matched with. -/
def commandText (command : CpuCommand) : List Char :=
  (hexText command.1.toNat).leftpad 2 '0' ++ ',' :: (hexText command.2.toNat).leftpad 2 '0'

/-- What is printed of the data. -/
def dataText (data : List UInt8) : List Char :=
  match data.getLast? with
  | none => []
  | some back => (data.dropLast.flatMap fun byte => hexText byte.toNat ++ [',']) ++ hexText back.toNat

/-- The input that `cli.cpp` makes of its arguments. Without any it erases before the
beginning of an empty string. -/
def cliInput (args : List (List Char)) : Option (List Char) :=
  if args.isEmpty then none else some (args.flatMap (· ++ [' '])).dropLast

/-- What the handler of the emulator calls. -/
inductive CliCall where
  | send (command : CpuCommand) (data : List UInt8)
  | repeat (name : List Char) (command : CpuCommand) (data : List UInt8) (interval : Nat)
  | stoprepeat (name : List Char)
  | stoprepeatAll
deriving DecidableEq

/-- `std::stoi` to base 10, of digits. -/
def stoi10 (digits : List Char) : Except Fault Nat :=
  let value := Nat.ofDigitChars 10 digits 0
  if digits.isEmpty then .error .invalidArgument
  else if 0x7fffffff < value then .error .outOfRange
  else .ok value

/-- The command, and the data if there are some. Whether the data are valid is not looked at. -/
def parseMessage : List (List Char) → Except Fault (Option (CpuCommand × List UInt8))
  | [] => .ok none
  | commandString :: tokens => do
      let (commandParsed, command) ← commandFromString commandString (0, 0)
      if commandParsed then
        match tokens with
        | [] => .ok (some (command, []))
        | dataString :: _ =>
            let (_, data) ← dataFromString dataString []
            .ok (some (command, data))
      else .ok none

def parseRepeat : List (List Char) → Except Fault (Option CliCall)
  | name :: intervalString :: tokens => do
      let interval ← if intervalString.all Char.isDigit then stoi10 intervalString else .ok 0
      if !tokens.isEmpty && interval ≠ 0 then
        let message ← parseMessage tokens
        .ok (message.map fun (command, data) => .repeat name command data interval)
      else .ok none
  | _ => .ok none

def handler (input : List Char) : Except Fault (Option CliCall) :=
  match tokenize input ' ' with
  | [] => .ok none
  | what :: tokens =>
      if what = "send".toList then do
        let message ← parseMessage tokens
        .ok (message.map fun (command, data) => .send command data)
      else if what = "repeat".toList then parseRepeat tokens
      else if what = "stoprepeat".toList then
        match tokens with
        | name :: _ => .ok (some (.stoprepeat name))
        | [] => .ok (some .stoprepeatAll)
      else .ok none

end CpuCom.Emulator
