namespace SeriesCell

inductive WireType where
  | varint
  | fixed64
  | delimited
  | groupStart
  | groupEnd
  | fixed32
deriving DecidableEq

def WireType.ofCode? : Nat → Option WireType
  | 0 => some .varint
  | 1 => some .fixed64
  | 2 => some .delimited
  | 3 => some .groupStart
  | 4 => some .groupEnd
  | 5 => some .fixed32
  | _ => none

def WireType.code : WireType → Nat
  | .varint => 0
  | .fixed64 => 1
  | .delimited => 2
  | .groupStart => 3
  | .groupEnd => 4
  | .fixed32 => 5

def WireType.name : WireType → String
  | .varint => "Varint"
  | .fixed64 => "SixtyFourBit"
  | .delimited => "LengthDelimited"
  | .groupStart => "StartGroup"
  | .groupEnd => "EndGroup"
  | .fixed32 => "ThirtyTwoBit"

inductive Defect where
  | badVarint
  | keyTooLarge (key : Nat)
  | unknownWireType (code : Nat)
  | tagZero
  | wrongWireType (actual expected : WireType)
  | underflow
  | tooDeep
  | strayGroupEnd
  | lengthExceeded
deriving DecidableEq

def Defect.message : Defect → String
  | .badVarint => "invalid varint"
  | .keyTooLarge key => "invalid key value: " ++ toString key
  | .unknownWireType code => "invalid wire type value: " ++ toString code
  | .tagZero => "invalid tag value: 0"
  | .wrongWireType actual expected =>
    "invalid wire type: " ++ actual.name ++ " (expected " ++ expected.name ++ ")"
  | .underflow => "buffer underflow"
  | .tooDeep => "recursion limit reached"
  | .strayGroupEnd => "unexpected end group tag"
  | .lengthExceeded => "delimited length exceeded"

theorem WireType.of_code_code (type : WireType) : WireType.ofCode? type.code = some type := by
  cases type <;> rfl

end SeriesCell
