import SeriesCell.Proofs.Acceptance

namespace SeriesCell

-- Text is shorter than 2^63 bytes, as every byte string in memory is.
def Value.Storable : Value → Prop
  | .text bytes => bytes.length < 0x8000000000000000
  | _ => True

def Cell.Storable : Cell → Prop
  | .null => True
  | .holding v => v.Storable

def Cell.value? : Cell → Option Value
  | .null => none
  | .holding v => some v

theorem of_value_value (c : Cell) : Cell.ofValue? c.value? = c := by
  cases c <;> rfl

theorem kind_key_write_spelled (kind : Kind) : SpelledKey kind.key.write kind.key := by
  cases kind <;> exact key_write_spelled _ (by decide) (by decide)

theorem write_body_spelled (v : Value) (storable : v.Storable) : FieldBody v v.writeBody := by
  cases v with
  | text bytes =>
    have short : bytes.length < 0x8000000000000000 := storable
    exact .text _ bytes (varint_write_spelled bytes.length (by omega))
  | integer v => exact .integer _ _ v (varint_write_spelled _ (zigzag_bound v)) (signed_encode v.toInt)
  | timestamp millis =>
    exact .timestamp _ _ millis (varint_write_spelled _ (zigzag_bound millis)) (signed_encode millis.toInt)
  | boolean v =>
    cases v with
    | false => exact .boolean _ 0 (varint_write_spelled 0 (by decide))
    | true => exact .boolean _ 1 (varint_write_spelled 1 (by decide))
  | float v =>
    refine .float _ v (LittleEndian.length_write 8 v.bits.toNat) ?_
    rw [← read_weight, Value.writeBody, LittleEndian.read_write 8 v.bits.toNat v.bits.toNat_lt]

theorem write_record (limit : Nat) (v : Value) (storable : v.Storable) :
    Record limit v.write (some v) :=
  .field v v.kind.key.write v.writeBody (kind_key_write_spelled v.kind) (write_body_spelled v storable)

theorem write_small_integer (v : Int64) (small : ZigZag.encode v.toInt < 128) :
    (Value.integer v).write = [0x10, UInt8.ofNat (ZigZag.encode v.toInt)] := by
  have key : Kind.integer.key.write = [0x10] := by cbv
  rw [Value.write, Value.kind, key, Value.writeBody, Varint.write, if_pos small]
  rfl

theorem values_put_empty (v : Value) : (Message.empty.put v).values = [v] := by
  cases v <;> rfl

theorem encode_holding (v : Value) : (Cell.holding v).encode.value = v.write := by
  change (Message.empty.put v).encode = v.write
  rw [Message.encode, values_put_empty, List.flatMap_singleton]

theorem encode_null : Cell.null.encode.value = [] := rfl

theorem encode_records (limit : Nat) (c : Cell) (storable : c.Storable) :
    Records limit c.encode.value (c.value?.toList.map some) := by
  cases c with
  | null => exact .nil
  | holding v =>
    rw [encode_holding]
    exact records_single limit v.write (some v) (write_record limit v storable)

theorem prevailing_single (v : Value) : prevailing? [v] = some v := by
  cases v <;> rfl

theorem prevailing_value (c : Cell) : prevailing? c.value?.toList = c.value? := by
  cases c with
  | null => rfl
  | holding v => exact prevailing_single v

theorem decode_nullable_encode (c : Cell) (storable : c.Storable) :
    (Cell.decodeNullable c.encode.value).value = .ok c := by
  rw [decode_nullable_records _ _ (encode_records 100 c storable), set_values_of_some,
    prevailing_value, of_value_value]

theorem decode_encode_holding (v : Value) (storable : v.Storable) :
    (Cell.decode (Cell.holding v).encode.value).value = .ok (.holding v) := by
  have parsed := encode_records 100 (.holding v) storable
  exact decode_strict_records _ _ v parsed (prevailing_single v)

theorem cell_bytes_round_trip (c : Cell) (storable : c.Storable) :
    (c ≠ .null → ∃ d, (Cell.decode c.encode.value).value = .ok d ∧
      (Cell.decodeNullable c.encode.value).value = .ok d ∧ d = c ∧
      d.encode.value = c.encode.value) ∧
    Cell.null.encode.value = [] ∧ (Cell.decodeNullable Cell.null.encode.value).value = .ok .null := by
  refine ⟨?_, encode_null, decode_nullable_encode .null trivial⟩
  intro present
  cases c with
  | null => exact absurd rfl present
  | holding v =>
    exact ⟨.holding v, decode_encode_holding v storable, decode_nullable_encode (.holding v) storable,
      rfl, rfl⟩

theorem signalling_nan_round_trip :
    (Cell.holding (.float ⟨0xfff0000000000123⟩)).Storable ∧
    ∃ d, (Cell.decode (Cell.holding (.float ⟨0xfff0000000000123⟩)).encode.value).value = .ok d ∧
      d = .holding (.float ⟨0xfff0000000000123⟩) := by
  obtain ⟨d, strict, _, same, _⟩ :=
    (cell_bytes_round_trip (.holding (.float ⟨0xfff0000000000123⟩)) trivial).1 (by decide)
  exact ⟨trivial, d, strict, same⟩

end SeriesCell
