import SeriesCell.Proofs.RoundTrip

/- The bytes that a cell is written as are the shortest that are read as it. All others of their length
   are other spellings of `true`, which any number of one byte but zero stands for. -/
namespace SeriesCell

structure Bytes.Shortens (canonical b : Bytes) : Prop where
  length_le : canonical.length ≤ b.length
  eq_of_length : b.length = canonical.length → b = canonical

theorem shortens_self (b : Bytes) : Bytes.Shortens b b := ⟨Nat.le_refl _, fun _ => rfl⟩

theorem septets_shorten (b : Bytes) (n : Nat) (septets : Septets b n) :
    Bytes.Shortens (Varint.write n) b := by
  induction septets with
  | last byte clear =>
    rw [Varint.write, if_pos clear, UInt8.ofNat_toNat]
    exact shortens_self [byte]
  | more byte tail high set rest ih =>
    have nonempty := septets_length_pos tail high rest
    have byteBound := byte.toNat_lt
    by_cases single : byte.toNat - 128 + 128 * high < 128
    · -- Zeros are padded on: one byte would do.
      rw [Varint.write, if_pos single]
      refine ⟨by simp, ?_⟩
      intro long
      simp only [List.length_cons, List.length_nil] at long
      omega
    · have low : (byte.toNat - 128 + 128 * high) % 128 + 128 = byte.toNat := by omega
      have shifted : (byte.toNat - 128 + 128 * high) / 128 = high := by omega
      rw [Varint.write, if_neg single, low, shifted, UInt8.ofNat_toNat]
      refine ⟨Nat.succ_le_succ ih.length_le, ?_⟩
      intro long
      rw [ih.eq_of_length (Nat.succ.inj long)]

theorem float_body (b : Bytes) (v : Double) (size : b.length = 8) (meaning : v.bits.toNat = b.weight) :
    (Value.float v).writeBody = b := by
  have written := little_endian_write_read b
  rwa [size, read_weight, ← meaning] at written

def Value.OtherTrue (v : Value) (body : Bytes) : Prop :=
  v = .boolean true ∧ ∃ byte : UInt8, byte ≠ 0 ∧ byte.toNat < 128 ∧ body = [byte]

theorem boolean_body_shortest (b : Bytes) (n : Nat) (number : SpelledNumber b n) :
    (Value.boolean (n != 0)).writeBody.length ≤ b.length ∧
    (b.length = (Value.boolean (n != 0)).writeBody.length →
      b = (Value.boolean (n != 0)).writeBody ∨ (Value.boolean (n != 0)).OtherTrue b) := by
  by_cases zero : n = 0
  · subst zero
    have shortest := septets_shorten b 0 number.septets
    exact ⟨shortest.length_le, fun long => .inl (shortest.eq_of_length long)⟩
  · have positive : (n != 0) = true := bne_iff_ne.mpr zero
    have one : (Value.boolean true).writeBody.length = 1 := by
      rw [Value.writeBody, Varint.write, if_pos (by decide), List.length_singleton]
    rw [positive, one]
    refine ⟨septets_length_pos b n number.septets, ?_⟩
    intro single
    cases number.septets with
    | last byte clear =>
      refine .inr ⟨rfl, byte, ?_, clear, rfl⟩
      rintro rfl
      exact zero rfl
    | more byte tail high set rest =>
      have nonempty := septets_length_pos tail high rest
      rw [List.length_cons] at single
      omega

theorem field_body_shortest (v : Value) (body : Bytes) (value : FieldBody v body) :
    v.writeBody.length ≤ body.length ∧
    (body.length = v.writeBody.length → body = v.writeBody ∨ v.OtherTrue body) := by
  cases value with
  | text count bytes number =>
    have shortest := septets_shorten count bytes.length number.septets
    rw [Value.writeBody, List.length_append, List.length_append]
    refine ⟨Nat.add_le_add_right shortest.length_le bytes.length, ?_⟩
    intro long
    rw [shortest.eq_of_length (Nat.add_right_cancel long)]
    exact .inl rfl
  | integer _ n v number meaning =>
    have shortest := septets_shorten body n number.septets
    rw [Value.writeBody, encode_of_signed n v.toInt meaning]
    exact ⟨shortest.length_le, fun long => .inl (shortest.eq_of_length long)⟩
  | timestamp _ n v number meaning =>
    have shortest := septets_shorten body n number.septets
    rw [Value.writeBody, encode_of_signed n v.toInt meaning]
    exact ⟨shortest.length_le, fun long => .inl (shortest.eq_of_length long)⟩
  | boolean _ n number => exact boolean_body_shortest body n number
  | float _ v size meaning =>
    rw [float_body body v size meaning]
    exact ⟨Nat.le_refl _, fun _ => .inl rfl⟩

theorem field_record_shortest (limit : Nat) (v : Value) (b : Bytes) (record : Record limit b (some v)) :
    v.write.length ≤ b.length ∧
    (b.length = v.write.length → b = v.write ∨ ∃ body, v.OtherTrue body ∧ b = v.kind.key.write ++ body) := by
  cases record with
  | field _ opening body spelled value =>
    have key := septets_shorten opening v.kind.key.code spelled.number.septets
    obtain ⟨short, same⟩ := field_body_shortest v body value
    have keyLength : v.kind.key.write.length ≤ opening.length := key.length_le
    rw [Value.write, List.length_append, List.length_append]
    refine ⟨Nat.add_le_add keyLength short, ?_⟩
    intro long
    have opened : opening = v.kind.key.write := key.eq_of_length (by rw [← Key.write]; omega)
    rw [opened]
    rcases same (by omega) with rfl | other
    · exact .inl rfl
    · exact .inr ⟨body, other, rfl⟩

theorem record_written (limit : Nat) (v : Value) (b : Bytes) (record : Record limit b (some v)) :
    Record limit v.write (some v) := by
  cases record with
  | field _ opening body spelled value =>
    refine .field v v.kind.key.write v.writeBody (kind_key_write_spelled v.kind) ?_
    cases value with
    | text count bytes number =>
      exact .text _ bytes (varint_write_spelled bytes.length (spelled_number_bound count _ number))
    | _ => exact write_body_spelled _ trivial

theorem record_within (limit : Nat) (b : Bytes) (records : List (Option Value)) (v : Option Value)
    (parsed : Records limit b records) (member : v ∈ records) :
    ∃ before record after, b = before ++ record ++ after ∧ Record limit record v := by
  induction parsed with
  | nil => simp at member
  | cons first rest w others record more ih =>
    rcases List.mem_cons.mp member with rfl | later
    · exact ⟨[], first, rest, rfl, record⟩
    · obtain ⟨before, found, after, split, single⟩ := ih later
      exact ⟨first ++ before, found, after, by simp only [split, List.append_assoc], single⟩

theorem prevailing_record (limit : Nat) (b : Bytes) (records : List (Option Value)) (v : Value)
    (parsed : Records limit b records) (prevails : prevailing? (setValues records) = some v) :
    ∃ before record after, b = before ++ record ++ after ∧ Record limit record (some v) := by
  obtain ⟨kind, _, last⟩ := List.exists_of_findSome?_eq_some prevails
  have member : v ∈ setValues records := List.mem_reverse.mp (List.mem_of_find?_eq_some last)
  exact record_within limit b records (some v) parsed (by simpa [setValues] using member)

-- Where the winning record is already as long as the input, it is the input.
theorem surrounded_record_shortest (limit : Nat) (v : Value) (before record after : Bytes)
    (single : Record limit record (some v)) :
    v.write.length ≤ (before ++ record ++ after).length ∧
    ((before ++ record ++ after).length = v.write.length →
      before ++ record ++ after = v.write ∨
      ∃ body, v.OtherTrue body ∧ before ++ record ++ after = v.kind.key.write ++ body) := by
  obtain ⟨short, same⟩ := field_record_shortest limit v record single
  rw [List.length_append, List.length_append]
  refine ⟨by omega, ?_⟩
  intro long
  have nothingBefore : before = [] := List.length_eq_zero_iff.mp (by omega)
  have nothingAfter : after = [] := List.length_eq_zero_iff.mp (by omega)
  rw [nothingBefore, nothingAfter, List.nil_append, List.append_nil]
  exact same (by omega)

def normalized? (b : Bytes) : Option Bytes :=
  match (Cell.decodeNullable b).value with
  | .ok c => some c.encode.value
  | .error _ => none

theorem normalized_of_decoded (b : Bytes) (c : Cell) (decoded : (Cell.decodeNullable b).value = .ok c) :
    normalized? b = some c.encode.value := by
  rw [normalized?, decoded]

theorem boolean_key : Kind.boolean.key.write = [0x20] := by cbv

theorem decode_other_true (byte : UInt8) (positive : byte ≠ 0) (small : byte.toNat < 128) :
    (Cell.decodeNullable [0x20, byte]).value = .ok (.holding (.boolean true)) := by
  have number : SpelledNumber [byte] byte.toNat := ⟨.last byte small, by simp, by simp⟩
  have nonzero : (byte.toNat != 0) = true := by
    rw [bne_iff_ne]
    exact fun zero => positive (UInt8.toNat_inj.mp zero)
  have body := FieldBody.boolean [byte] byte.toNat number
  rw [nonzero] at body
  have record : Record 100 (Kind.boolean.key.write ++ [byte]) (some (.boolean true)) :=
    .field (.boolean true) _ [byte] (kind_key_write_spelled .boolean) body
  rw [boolean_key] at record
  exact decode_nullable_records _ _ (records_single 100 _ _ record)

theorem decode_prevailing (b : Bytes) (c : Cell) (decoded : (Cell.decodeNullable b).value = .ok c) :
    ∃ records, Records 100 b records ∧ c = Cell.ofValue? (prevailing? (setValues records)) := by
  obtain ⟨records, parsed⟩ := records_of_decode_nullable b c decoded
  rw [decode_nullable_records b records parsed] at decoded
  exact ⟨records, parsed, (Except.ok.inj decoded).symm⟩

theorem decoded_shortest (b : Bytes) (c : Cell) (decoded : (Cell.decodeNullable b).value = .ok c) :
    c.encode.value.length ≤ b.length ∧ (Cell.decodeNullable c.encode.value).value = .ok c ∧
    (b.length = c.encode.value.length → b = c.encode.value ∨
      ∃ v body, c = .holding v ∧ v.OtherTrue body ∧ b = v.kind.key.write ++ body) := by
  obtain ⟨records, parsed, rfl⟩ := decode_prevailing b c decoded
  cases prevails : prevailing? (setValues records) with
  | none =>
    refine ⟨Nat.zero_le _, decode_nullable_encode .null trivial, ?_⟩
    intro empty
    exact .inl (List.length_eq_zero_iff.mp empty)
  | some v =>
    obtain ⟨before, record, after, rfl, single⟩ := prevailing_record 100 b records v parsed prevails
    obtain ⟨short, same⟩ := surrounded_record_shortest 100 v before record after single
    rw [Cell.ofValue?, encode_holding]
    refine ⟨short, ?_, ?_⟩
    · have written := records_single 100 v.write (some v) (record_written 100 v record single)
      have alone : prevailing? (setValues [some v]) = some v := prevailing_single v
      rw [decode_nullable_records v.write [some v] written, alone]
      rfl
    · intro long
      rcases same long with written | ⟨body, other, written⟩
      · exact .inl written
      · exact .inr ⟨v, body, rfl, other, written⟩

theorem encode_is_shortest (b : Bytes) (c : Cell) (decoded : (Cell.decodeNullable b).value = .ok c) :
    c.encode.value.length ≤ b.length ∧
    (Cell.decodeNullable c.encode.value).value = .ok c ∧
    (b.length = c.encode.value.length → b = c.encode.value ∨
      (c = .holding (.boolean true) ∧
        ∃ byte : UInt8, byte ≠ 0 ∧ byte.toNat < 128 ∧ b = [0x20, byte])) ∧
    (c = .holding (.boolean true) → ∀ byte : UInt8, byte ≠ 0 → byte.toNat < 128 →
      (Cell.decodeNullable [0x20, byte]).value = .ok c) ∧
    normalized? b = some c.encode.value ∧ normalized? c.encode.value = some c.encode.value := by
  obtain ⟨short, again, same⟩ := decoded_shortest b c decoded
  refine ⟨short, again, ?_, ?_, normalized_of_decoded b c decoded, normalized_of_decoded _ c again⟩
  · intro long
    rcases same long with written | ⟨v, _, rfl, ⟨rfl, byte, positive, small, rfl⟩, written⟩
    · exact .inl written
    · have bytes : b = [0x20, byte] := by
        rw [written, Value.kind, boolean_key]
        rfl
      exact .inr ⟨rfl, byte, positive, small, bytes⟩
  · rintro rfl byte positive small
    exact decode_other_true byte positive small

theorem padded_integer_normalized :
    (Cell.decodeNullable [0x0a, 0x01, 0x61, 0x90, 0x00, 0x81, 0x00]).value =
      .ok (.holding (.integer (-1))) ∧
    normalized? [0x0a, 0x01, 0x61, 0x90, 0x00, 0x81, 0x00] =
      some (Cell.holding (.integer (-1))).encode.value ∧
    (Cell.holding (.integer (-1))).encode.value = [0x10, 0x01] := by
  have message : Message.decode [0x0a, 0x01, 0x61, 0x90, 0x00, 0x81, 0x00] =
      .ok ⟨some [0x61], some (-1), none, none, none⟩ := by cbv
  have decoded : (Cell.decodeNullable [0x0a, 0x01, 0x61, 0x90, 0x00, 0x81, 0x00]).value =
      .ok (.holding (.integer (-1))) := by
    simp only [Cell.decodeNullable, message]
    rfl
  have written : (Value.integer (-1)).write = [0x10, 0x01] := write_small_integer (-1) (by decide)
  exact ⟨decoded, (encode_is_shortest _ _ decoded).2.2.2.2.1, (encode_holding _).trans written⟩

end SeriesCell
