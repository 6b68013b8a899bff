import SeriesCell.Double.Rounding
import SeriesCell.Text.Numeral

namespace SeriesCell

inductive FloatError where
  | empty
  | invalid
deriving DecidableEq

def FloatError.message : FloatError → String
  | .empty => "cannot parse float from empty string"
  | .invalid => "invalid float literal"

namespace FloatLiteral

def splitSign : List Char → Bool × List Char
  | '+' :: rest => (false, rest)
  | '-' :: rest => (true, rest)
  | text => (false, text)

-- The exponent that digits spell. It stops growing far beyond the range of doubles.
def exponentValue (digits : List Char) : Nat :=
  digits.foldl (fun total c => if total < 65536 then total * 10 + digitValue c else total) 0

def readExponent : List Char → Option Int
  | [] => some 0
  | mark :: text =>
    let (negative, digits) := splitSign text
    if (mark == 'e' || mark == 'E') && !digits.isEmpty && digits.all Char.isDigit then
      some (if negative then -(exponentValue digits : Int) else exponentValue digits)
    else none

def splitFraction : List Char → List Char × List Char
  | '.' :: rest => (rest.takeWhile Char.isDigit, rest.dropWhile Char.isDigit)
  | text => ([], text)

def readDecimal (text : List Char) : Option Decimal :=
  let whole := text.takeWhile Char.isDigit
  let (fraction, after) := splitFraction (text.dropWhile Char.isDigit)
  if whole.isEmpty && fraction.isEmpty then none
  else
    match readExponent after with
    | some exponent =>
      some ⟨Nat.ofDigitChars 10 (whole ++ fraction) 0, exponent - fraction.length⟩
    | none => none

def readMagnitude (text : List Char) : Option Nat :=
  match readDecimal text with
  | some d => some (Double.nearest d)
  | none =>
    let name := text.map Char.toLower
    if name = ['i', 'n', 'f'] ∨ name = ['i', 'n', 'f', 'i', 'n', 'i', 't', 'y'] then
      some Double.infinityBits
    else if name = ['n', 'a', 'n'] then some Double.notANumber.magnitude
    else none

end FloatLiteral

def readFloat (text : List Char) : Except FloatError Double :=
  if text.isEmpty then .error .empty
  else
    let (negative, unsigned) := FloatLiteral.splitSign text
    match FloatLiteral.readMagnitude unsigned with
    | some magnitude => .ok (Double.ofParts negative magnitude)
    | none => .error .invalid

end SeriesCell
