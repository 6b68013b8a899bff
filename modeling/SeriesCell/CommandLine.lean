import SeriesCell.Cell.Codec
import SeriesCell.Cell.Literal
import SeriesCell.Tracing.Filter

/- The command line: `encode KIND VALUE` prints the bytes of a cell in hexadecimal, `decode HEX` the
   kind and the text of the cell that bytes hold. Further arguments are ignored. -/
namespace SeriesCell

inductive CommandError where
  | missingCommand
  | missingArguments (command : List Char)
  | missingValue
  | unknownCommand (command : List Char)
  | badLiteral (e : LiteralError)
  | badCell (e : CellError)
deriving DecidableEq

namespace CommandError

def summary : CommandError → String
  | missingCommand => "Missing <command>"
  | missingArguments command => "Missing arguments for " ++ String.ofList command
  | missingValue => "Missing <value>"
  | unknownCommand command => "Missing or invalid command passed: " ++ String.ofList command
  | badLiteral e => e.summary
  | badCell e => e.message

def cause? : CommandError → Option String
  | badLiteral e => e.cause?
  | badCell e => e.cause?
  | _ => none

def report (e : CommandError) : String :=
  let cause := match e.cause? with
    | some text => "\nCaused by:\n    " ++ text ++ "\n"
    | none => ""
  "Error: " ++ e.summary ++ "\n" ++ cause

end CommandError

namespace CommandLine

def encode (kind value : List Char) : Traced (Except CommandError String) :=
  match Cell.ofLiteral kind value with
  | .ok cell => cell.encode.map fun bytes => .ok (String.ofList (Hex.write bytes) ++ "\n")
  | .error e => ⟨.error (.badLiteral e), []⟩

def describe (cell : Cell) : String := kindName cell.kind ++ " " ++ cell.display ++ "\n"

def decode (hex : List Char) : Traced (Except CommandError String) :=
  match Hex.read hex with
  | .error e => ⟨.error (.badLiteral (.badHex e)), []⟩
  | .ok bytes =>
    (Cell.decodeNullable bytes).map fun result =>
      match result with
      | .ok cell => .ok (describe cell)
      | .error e => .error (.badCell e)

def execute : List (List Char) → Traced (Except CommandError String)
  | [] => ⟨.error .missingCommand, []⟩
  | [command] => ⟨.error (.missingArguments command), []⟩
  | command :: first :: rest =>
    if command = "encode".toList then
      match rest with
      | [] => ⟨.error .missingValue, []⟩
      | value :: _ => encode first value
    else if command = "decode".toList then decode first
    else ⟨.error (.unknownCommand command), []⟩

-- A program that stops for a fault of its own prints nothing but where it stopped, which is left out.
inductive Outcome where
  | finished (exitCode : Nat) (output errors : String)
  | crashed
deriving DecidableEq

def Outcome.exitCode : Outcome → Nat
  | .finished exitCode _ _ => exitCode
  | .crashed => 101

def run (setting : Option (List Char)) (arguments : List (List Char)) : Outcome :=
  match Filter.ofSetting setting with
  | none => .crashed
  | some filter =>
    let done := execute arguments
    match done.value with
    | .ok output => .finished 0 output (filter.log done.events)
    | .error e => .finished 1 "" (filter.log done.events ++ e.report)

end CommandLine

end SeriesCell
