import SeriesCell.Cell
import SeriesCell.Double.Literal
import SeriesCell.Text.Hex
import SeriesCell.Time.Stamp

namespace SeriesCell

inductive LiteralError where
  | unknownKind (kind : List Char)
  | badHex (e : Hex.Error)
  | badInteger (e : IntegerError)
  | badFloat (e : FloatError)
  | badBoolean
  | badTimestamp (text : List Char) (e : StampError)
deriving DecidableEq

namespace LiteralError

def summary : LiteralError → String
  | unknownKind kind => "unknown cell kind " ++ quote kind
  | badHex e => e.message
  | badInteger _ => "sint64 value"
  | badFloat _ => "double value"
  | badBoolean => "boolean value"
  | badTimestamp text _ => "timestamp " ++ quote text ++ " is neither millis nor RFC 3339"

def cause? : LiteralError → Option String
  | unknownKind _ | badHex _ => none
  | badInteger e => some e.message
  | badFloat e => some e.message
  | badBoolean => some "provided string was not `true` or `false`"
  | badTimestamp _ e => some e.message

end LiteralError

namespace Cell

def readBoolean (text : List Char) : Option Bool :=
  if text = "true".toList then some true
  else if text = "false".toList then some false
  else none

-- Milliseconds, or else a time stamp. The error of a text that is neither is that of the stamp.
def readTimestamp (text : List Char) : Except LiteralError Cell :=
  match readInteger text with
  | .ok millis => .ok (holding (.timestamp (Int64.ofInt millis)))
  | .error _ =>
    match Stamp.read text with
    | .ok instant => .ok (ofInstant instant)
    | .error e => .error (.badTimestamp text e)

def ofLiteral (kind text : List Char) : Except LiteralError Cell :=
  if kind = "varchar".toList then .ok (ofText text)
  else if kind = "binary".toList then
    match Hex.read text with
    | .ok bytes => .ok (ofBinary bytes)
    | .error e => .error (.badHex e)
  else if kind = "sint64".toList then
    match readInteger text with
    | .ok v => .ok (holding (.integer (Int64.ofInt v)))
    | .error e => .error (.badInteger e)
  else if kind = "double".toList then
    match readFloat text with
    | .ok v => .ok (holding (.float v))
    | .error e => .error (.badFloat e)
  else if kind = "boolean".toList then
    match readBoolean text with
    | some v => .ok (holding (.boolean v))
    | none => .error .badBoolean
  else if kind = "timestamp".toList then readTimestamp text
  else .error (.unknownKind kind)

end Cell

end SeriesCell
