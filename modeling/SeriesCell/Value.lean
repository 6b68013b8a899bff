import SeriesCell.Bytes
import SeriesCell.Double

namespace SeriesCell

inductive Kind where
  | text
  | integer
  | timestamp
  | boolean
  | float
deriving DecidableEq

def Kind.name : Kind → String
  | .text => "Text"
  | .integer => "Integer"
  | .timestamp => "Timestamp"
  | .boolean => "Boolean"
  | .float => "Float"

inductive Value where
  | text (bytes : Bytes)
  | integer (v : Int64)
  | timestamp (millis : Int64)
  | boolean (v : Bool)
  | float (v : Double)
deriving DecidableEq

def Value.kind : Value → Kind
  | .text _ => .text
  | .integer _ => .integer
  | .timestamp _ => .timestamp
  | .boolean _ => .boolean
  | .float _ => .float

def Value.default : Kind → Value
  | .text => .text []
  | .integer => .integer 0
  | .timestamp => .timestamp 0
  | .boolean => .boolean false
  | .float => .float Double.zero

def Value.same : Value → Value → Bool
  | .text a, .text b => a == b
  | .integer a, .integer b => a == b
  | .timestamp a, .timestamp b => a == b
  | .boolean a, .boolean b => a == b
  | .float a, .float b => a.foldedBits == b.foldedBits
  | _, _ => false

def Value.hashFeed : Value → List Nat
  | .text bytes => bytes.length :: bytes.map UInt8.toNat
  | .integer v => [v.toUInt64.toNat]
  | .timestamp millis => [millis.toUInt64.toNat]
  | .boolean v => [v.toNat]
  | .float v => [v.foldedBits.toNat]

theorem Value.kind_default (kind : Kind) : (Value.default kind).kind = kind := by
  cases kind <;> rfl

end SeriesCell
