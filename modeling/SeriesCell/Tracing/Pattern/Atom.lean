import SeriesCell.Text.Hex
import SeriesCell.Tracing.Pattern.Mode

namespace SeriesCell.Pattern

inductive Atom where
  | char (c : Char) (asByte : Bool)
  | shorthand
  | position
deriving DecidableEq

namespace Atom

def readHex (mode : Mode) : Nat → Nat → List Char → Option (Nat × List Char)
  | 0, number, text => some (number, text)
  | digits + 1, number, text =>
    match mode.skip text with
    | c :: rest =>
      if c.toNat < 0x80 then
        match Hex.digitValue? (UInt8.ofNat c.toNat) with
        | some value => readHex mode digits (number * 16 + value) rest
        | none => none
      else none
    | [] => none

def readSpelled (mode : Mode) (digits : Nat) (asByte : Bool) (text : List Char) :
    Option (Atom × List Char) :=
  match readHex mode digits 0 text with
  | some (number, rest) =>
    if number.isValidChar then some (.char (Char.ofNat number) asByte, rest) else none
  | none => none

-- What stands behind a backslash. Digits and the remaining letters have no meaning, and which
-- characters are letters or parts of words is known for bytes only.
def readEscape (mode : Mode) : List Char → Option (Atom × List Char)
  | [] => none
  | c :: rest =>
    match c with
    | 'x' => readSpelled mode 2 true rest
    | 'u' => readSpelled mode 4 false rest
    | 'U' => readSpelled mode 8 false rest
    | 'a' => some (.char '\x07' false, rest)
    | 't' => some (.char '\t' false, rest)
    | 'n' => some (.char '\n' false, rest)
    | 'v' => some (.char '\x0b' false, rest)
    | 'f' => some (.char '\x0c' false, rest)
    | 'r' => some (.char '\r' false, rest)
    | 'A' | 'z' => some (.position, rest)
    | 'b' | 'B' | '<' | '>' => if mode.unicode then none else some (.position, rest)
    | 'd' | 's' | 'w' => if mode.unicode then none else some (.shorthand, rest)
    | _ => if c.isAlphanum || decide (0x80 ≤ c.toNat) then none else some (.char c false, rest)

def standsAlone (mode : Mode) : Atom → Bool
  | .char c asByte =>
    mode.takesCharacters && (mode.unicode || !asByte || decide (c.toNat < 0x80))
  | _ => true

def standsInClass (mode : Mode) : Atom → Bool
  | .char c _ => mode.takesCharacters && (mode.unicode || decide (c.toNat < 0x80))
  | .shorthand => true
  | .position => false

end Atom

end SeriesCell.Pattern
