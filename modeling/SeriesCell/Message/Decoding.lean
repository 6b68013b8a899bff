import SeriesCell.Message.Encoding

/- Reading messages. A message is records up to the end of the input; a record sets a field, or has
   a tag of no field and is skipped. Merging reads records into a message that may hold fields
   already, and keeps what was read before a failure. -/
namespace SeriesCell

def Kind.ofTag? : Nat → Option Kind
  | 1 => some .text
  | 2 => some .integer
  | 3 => some .timestamp
  | 4 => some .boolean
  | 5 => some .float
  | _ => none

def Kind.fieldName : Kind → String
  | .text => "varchar_value"
  | .integer => "sint64_value"
  | .timestamp => "timestamp_value"
  | .boolean => "boolean_value"
  | .float => "double_value"

structure DecodeError where
  field : Option Kind
  defect : Defect
deriving DecidableEq

def DecodeError.message (e : DecodeError) : String :=
  let place := match e.field with
    | some kind => "TsCell." ++ kind.fieldName ++ ": "
    | none => ""
  "failed to decode Protobuf message: " ++ place ++ e.defect.message

def Value.readBody (kind : Kind) (b : Bytes) : Except Defect (Value × Bytes) :=
  match kind with
  | .text =>
    match Varint.read b with
    | none => .error .badVarint
    | some (count, rest) =>
      match rest.split? count with
      | some (bytes, rest) => .ok (.text bytes, rest)
      | none => .error .underflow
  | .integer =>
    match Varint.read b with
    | some (n, rest) => .ok (.integer (Int64.ofInt (ZigZag.decode n)), rest)
    | none => .error .badVarint
  | .timestamp =>
    match Varint.read b with
    | some (n, rest) => .ok (.timestamp (Int64.ofInt (ZigZag.decode n)), rest)
    | none => .error .badVarint
  | .boolean =>
    match Varint.read b with
    | some (n, rest) => .ok (.boolean (n != 0), rest)
    | none => .error .badVarint
  | .float =>
    match b.split? 8 with
    | some (bytes, rest) => .ok (.float ⟨UInt64.ofNat (LittleEndian.read bytes)⟩, rest)
    | none => .error .underflow

def readRecord (limit : Nat) (b : Bytes) : Except DecodeError (Option Value × Bytes) :=
  match Key.read b with
  | .error defect => .error ⟨none, defect⟩
  | .ok (key, body) =>
    match Kind.ofTag? key.tag with
    | none =>
      match skip limit key body with
      | .ok rest => .ok (none, rest)
      | .error defect => .error ⟨none, defect⟩
    | some kind =>
      if key.type = kind.wireType then
        match Value.readBody kind body with
        | .ok (v, rest) => .ok (some v, rest)
        | .error defect => .error ⟨some kind, defect⟩
      else .error ⟨some kind, .wrongWireType key.type kind.wireType⟩

theorem Value.read_body_shorter {kind : Kind} {b rest : Bytes} {v : Value}
    (h : Value.readBody kind b = .ok (v, rest)) : rest.length ≤ b.length := by
  unfold Value.readBody at h
  split at h
  · split at h
    · simp at h
    · rename_i count after found
      split at h
      · rename_i bytes left parts
        simp only [Except.ok.injEq, Prod.mk.injEq] at h
        have whole := (Bytes.split?_eq_some parts).1
        have shorter := Varint.read_shorter found
        simp only [whole, List.length_append, h.2] at shorter
        omega
      · simp at h
  iterate 3
    · split at h
      · rename_i n after found
        simp only [Except.ok.injEq, Prod.mk.injEq] at h
        exact h.2 ▸ Nat.le_of_lt (Varint.read_shorter found)
      · simp at h
  · split at h
    · rename_i bytes left parts
      simp only [Except.ok.injEq, Prod.mk.injEq] at h
      have whole := (Bytes.split?_eq_some parts).1
      simp [whole, h.2]
    · simp at h

theorem read_record_shorter {limit : Nat} {b rest : Bytes} {v : Option Value}
    (h : readRecord limit b = .ok (v, rest)) : rest.length < b.length := by
  unfold readRecord at h
  split at h
  · simp at h
  · rename_i key body found
    have shorter := Key.read_shorter found
    split at h
    · split at h
      · rename_i after skipped
        simp only [Except.ok.injEq, Prod.mk.injEq] at h
        exact Nat.lt_of_le_of_lt (h.2 ▸ skip_shorter skipped) shorter
      · simp at h
    · split at h
      · split at h
        · rename_i w after found
          simp only [Except.ok.injEq, Prod.mk.injEq] at h
          exact Nat.lt_of_le_of_lt (h.2 ▸ Value.read_body_shorter found) shorter
        · simp at h
      · simp at h

structure Merged where
  message : Message
  error : Option DecodeError
deriving DecidableEq

namespace Message

def touchFailed (m : Message) (e : DecodeError) : Message :=
  match e.field with
  | some kind => m.touch kind
  | none => m

def putRead (m : Message) : Option Value → Message
  | some v => m.put v
  | none => m

-- Reads records as long as more than `reserve` bytes are left. The last one has to end where
-- `reserve` bytes are left.
def mergeDownTo (reserve limit : Nat) (m : Message) (b : Bytes) : Merged :=
  if (b.drop reserve).isEmpty then
    if b.length = reserve then ⟨m, none⟩ else ⟨m, some ⟨none, .lengthExceeded⟩⟩
  else
    match _ : readRecord limit b with
    | .error e => ⟨m.touchFailed e, some e⟩
    | .ok (v, rest) => mergeDownTo reserve limit (m.putRead v) rest
termination_by b.length
decreasing_by exact read_record_shorter ‹_›

def skipLimit : Nat := 100

def merge (m : Message) (b : Bytes) : Merged := mergeDownTo 0 skipLimit m b

-- Merges a message that follows its own length. The message counts as a level itself, and what
-- follows it is left alone.
def mergeDelimited (m : Message) (b : Bytes) : Merged :=
  match Varint.read b with
  | none => ⟨m, some ⟨none, .badVarint⟩⟩
  | some (count, rest) =>
    if rest.length < count then ⟨m, some ⟨none, .underflow⟩⟩
    else mergeDownTo (rest.length - count) (skipLimit - 1) m rest

end Message

def Merged.toExcept (merged : Merged) : Except DecodeError Message :=
  match merged.error with
  | none => .ok merged.message
  | some e => .error e

namespace Message

def decode (b : Bytes) : Except DecodeError Message := (merge empty b).toExcept

def decodeDelimited (b : Bytes) : Except DecodeError Message := (mergeDelimited empty b).toExcept

end Message

end SeriesCell
