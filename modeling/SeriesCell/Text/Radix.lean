import SeriesCell.Text.Hex
import SeriesCell.Text.Numeral

/- Another way to read hexadecimal pairs. The digits are checked, then they are taken as text, and the
   text is read as a number of one byte in base sixteen, which alone would allow a plus sign. Each step
   after the check has a fault of its own. -/
namespace SeriesCell

def Utf8.strict? (b : Bytes) : Option (List Char) :=
  if Utf8.encode (Utf8.decode b) = b then some (Utf8.decode b) else none

namespace Hex

def charValue? (c : Char) : Option Nat :=
  if c.toNat < 0x80 then digitValue? (UInt8.ofNat c.toNat) else none

def readNumberFrom (total : Nat) : List Char → Except IntegerError Nat
  | [] => .ok total
  | c :: rest =>
    match charValue? c with
    | none => .error .invalidDigit
    | some value =>
      if 0xff < total * 16 + value then .error .tooLarge
      else readNumberFrom (total * 16 + value) rest

def readNumber (text : List Char) : Except IntegerError Nat :=
  match text with
  | [] => .error .empty
  | ['+'] | ['-'] => .error .invalidDigit
  | '+' :: digits => readNumberFrom 0 digits
  | digits => readNumberFrom 0 digits

inductive Fault where
  | refused (e : Error)
  | notText (pair : Bytes)
  | notNumber (digits : List Char) (e : IntegerError)
deriving DecidableEq

def checkPair (pair : UInt8 × UInt8) : Except Fault UInt8 :=
  if (digitValue? pair.1).isSome ∧ (digitValue? pair.2).isSome then
    match Utf8.strict? [pair.1, pair.2] with
    | none => .error (.notText [pair.1, pair.2])
    | some digits =>
      match readNumber digits with
      | .ok value => .ok (UInt8.ofNat value)
      | .error e => .error (.notNumber digits e)
  else .error (.refused (.badPair pair.1 pair.2))

def readStepwise (text : List Char) : Except Fault Bytes :=
  match pairs (Utf8.encode text) with
  | none => .error (.refused (.oddLength text))
  | some parts => parts.mapM checkPair

end Hex

end SeriesCell
