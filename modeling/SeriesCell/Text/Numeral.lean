namespace SeriesCell

def integerChars (v : Int) : List Char :=
  if v < 0 then '-' :: Nat.toDigits 10 v.natAbs else Nat.toDigits 10 v.natAbs

inductive IntegerError where
  | empty
  | invalidDigit
  | tooLarge
  | tooSmall
deriving DecidableEq

def IntegerError.message : IntegerError → String
  | .empty => "cannot parse integer from empty string"
  | .invalidDigit => "invalid digit found in string"
  | .tooLarge => "number too large to fit in target type"
  | .tooSmall => "number too small to fit in target type"

def digitValue (c : Char) : Nat := c.toNat - '0'.toNat

-- Appends digits to a 64-bit number, going up or down. The first character that is no digit or
-- leaves the range decides the error.
def readDigits (negative : Bool) (total : Int) : List Char → Except IntegerError Int
  | [] => .ok total
  | c :: rest =>
    if c.isDigit then
      let next := if negative then total * 10 - digitValue c else total * 10 + digitValue c
      if 0x7fffffffffffffff < next then .error .tooLarge
      else if next < -0x8000000000000000 then .error .tooSmall
      else readDigits negative next rest
    else .error .invalidDigit

def readInteger (text : List Char) : Except IntegerError Int :=
  match text with
  | [] => .error .empty
  | ['+'] | ['-'] => .error .invalidDigit
  | '+' :: digits => readDigits false 0 digits
  | '-' :: digits => readDigits true 0 digits
  | digits => readDigits false 0 digits

end SeriesCell
