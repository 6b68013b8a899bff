import SeriesCell.Value

/- The message that carries a cell: one optional field for each kind of value. A well-formed message
   has at most one field, and none stands for NULL, but any number may arrive. -/
namespace SeriesCell

structure Message where
  text : Option Bytes
  integer : Option Int64
  timestamp : Option Int64
  boolean : Option Bool
  float : Option Double
deriving DecidableEq

namespace Message

def empty : Message := ⟨none, none, none, none, none⟩

def fieldCount (m : Message) : Nat :=
  m.text.isSome.toNat + m.integer.isSome.toNat + m.timestamp.isSome.toNat +
    m.boolean.isSome.toNat + m.float.isSome.toNat

def isEmpty (m : Message) : Bool := m.fieldCount == 0

def get? (m : Message) : Kind → Option Value
  | .text => m.text.map .text
  | .integer => m.integer.map .integer
  | .timestamp => m.timestamp.map .timestamp
  | .boolean => m.boolean.map .boolean
  | .float => m.float.map .float

def put (m : Message) : Value → Message
  | .text bytes => { m with text := some bytes }
  | .integer v => { m with integer := some v }
  | .timestamp millis => { m with timestamp := some millis }
  | .boolean v => { m with boolean := some v }
  | .float v => { m with float := some v }

def touch (m : Message) (kind : Kind) : Message :=
  match m.get? kind with
  | some _ => m
  | none => m.put (Value.default kind)

def override (m later : Message) : Message :=
  ⟨later.text.or m.text, later.integer.or m.integer, later.timestamp.or m.timestamp,
    later.boolean.or m.boolean, later.float.or m.float⟩

def values (m : Message) : List Value :=
  [Kind.text, .integer, .timestamp, .boolean, .float].filterMap m.get?

def preferred? (m : Message) : Option Value :=
  [Kind.boolean, .float, .integer, .timestamp, .text].findSome? m.get?

def floatsEqual : Option Double → Option Double → Bool
  | none, none => true
  | some v, some w => v.equalAsNumbers w
  | _, _ => false

def equalAsNumbers (m n : Message) : Bool :=
  m.text == n.text && m.integer == n.integer && m.timestamp == n.timestamp &&
    m.boolean == n.boolean && floatsEqual m.float n.float

theorem get?_put (m : Message) (v : Value) (kind : Kind) :
    (m.put v).get? kind = if kind = v.kind then some v else m.get? kind := by
  cases v <;> cases kind <;> simp [put, get?, Value.kind]

theorem get?_override (m later : Message) (kind : Kind) :
    (m.override later).get? kind = (later.get? kind).or (m.get? kind) := by
  cases kind <;> simp [override, get?, Option.map_or]

theorem ext_get? {m n : Message} (same : ∀ kind, m.get? kind = n.get? kind) : m = n := by
  have text := same .text
  have integer := same .integer
  have timestamp := same .timestamp
  have boolean := same .boolean
  have float := same .float
  simp only [get?] at text integer timestamp boolean float
  cases m
  cases n
  simp only [Message.mk.injEq]
  exact ⟨Option.map_injective (fun _ _ => Value.text.inj) text,
    Option.map_injective (fun _ _ => Value.integer.inj) integer,
    Option.map_injective (fun _ _ => Value.timestamp.inj) timestamp,
    Option.map_injective (fun _ _ => Value.boolean.inj) boolean,
    Option.map_injective (fun _ _ => Value.float.inj) float⟩

end Message

end SeriesCell
