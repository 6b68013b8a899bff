import SeriesCell.Cell
import SeriesCell.Double.Layout

namespace SeriesCell

def kindName : Option Kind → String
  | none => "Unset"
  | some kind => kind.name

-- Cuts a text where its character number `limit` begins, a place that is counted in bytes. A character
-- begins there, so the slice is never refused.
def abbreviate (limit : Nat) (text : List Char) : List Char :=
  match (Utf8.positions 0 text)[limit]? with
  | none => text
  | some (place, _) =>
    match Utf8.slice? text 0 place with
    | some shown => shown ++ ['.', '.', '.']
    | none => text

namespace Cell

def displayLimit : Nat := 32

def floatFormat : FloatFormat where
  plainFrom := 0x3f50624dd2f1a9fc
  plainBelow := 0x416312d000000000
  exponentMark := 'E'
  infinity := ['I', 'n', 'f', 'i', 'n', 'i', 't', 'y']
  notANumber := ['N', 'a', 'N']

def booleanChars (v : Bool) : List Char := (if v then "true" else "false").toList

def valueChars (c : Cell) : List Char :=
  match c with
  | null => []
  | holding (.text _) => abbreviate displayLimit c.text
  | holding (.integer v) => integerChars v.toInt
  | holding (.float v) => floatFormat.write v
  | holding (.timestamp millis) => integerChars millis.toInt
  | holding (.boolean v) => booleanChars v

def display (c : Cell) : String :=
  "Cell\x7b " ++ String.ofList c.valueChars ++ " \x7d"

end Cell

end SeriesCell
