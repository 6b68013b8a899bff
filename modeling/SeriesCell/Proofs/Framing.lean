import Mathlib.Algebra.Order.BigOperators.Group.List
import Mathlib.Algebra.Order.Group.Nat
import SeriesCell.Proofs.Messages

/- Messages that follow their own length. The reader sees the bytes behind the message too, and compares
   lengths only after each record, yet what it accepts is the message on its own: a record that reaches
   beyond the message is found to end too late, or does not end at all. -/
namespace SeriesCell

inductive EndsInside (limit : Nat) : Bytes → Prop where
  | cut (before start finish : Bytes) (records : List (Option Value)) (v : Option Value)
      (done : Records limit before records) (record : Record limit (start ++ finish) v)
      (begun : start ≠ []) (unfinished : finish ≠ []) : EndsInside limit (before ++ start)

theorem merge_delimited (m : Message) (p s : Bytes) (short : p.length < 0x10000000000000000) :
    m.mergeDelimited (Varint.write p.length ++ p ++ s) = m.mergeDownTo s.length 99 (p ++ s) := by
  have all : ¬ (p ++ s).length < p.length := by
    rw [List.length_append]
    omega
  have behind : (p ++ s).length - p.length = s.length := by
    rw [List.length_append, Nat.add_sub_cancel_left]
  rw [Message.mergeDelimited, List.append_assoc, Varint.read_write p.length (p ++ s) short]
  simp only [if_neg all, behind, Message.skipLimit]

theorem decode_delimited_iff (p s : Bytes) (m : Message) :
    Message.decodeDelimited (Varint.write p.length ++ p ++ s) = .ok m ↔
      p.length < 0x10000000000000000 ∧
      ∃ records, Records 99 p records ∧ m = Message.empty.putAll (setValues records) := by
  by_cases short : p.length < 0x10000000000000000
  · rw [Message.decodeDelimited, to_except_ok_iff, merge_delimited Message.empty p s short,
      merge_before_iff]
    simp only [short, true_and]
  · have unread := large_number_unread p.length (p ++ s) (Nat.le_of_not_lt short)
    rw [Message.decodeDelimited, to_except_ok_iff, Message.mergeDelimited, List.append_assoc, unread]
    simp [short]

theorem no_records_inside (limit other : Nat) (p : Bytes) (records : List (Option Value))
    (cut : EndsInside limit p) : ¬ Records other p records := by
  intro parsed
  obtain ⟨before, start, finish, others, v, done, record, begun, unfinished⟩ := cut
  -- Both readings hold at the larger limit, and there a record off the front is unique.
  have deeper := Nat.le_max_left limit other
  have begins := records_deeper limit (max limit other) deeper before others done
  have whole := records_deeper other (max limit other) (Nat.le_max_right limit other) _ records parsed
  obtain ⟨after, _, remaining⟩ := records_rest _ before start others records begins whole
  cases remaining with
  | nil => exact begun rfl
  | cons first rest w _ complete _ =>
    have longer := record_deeper limit (max limit other) deeper _ v record
    have same : first ++ (rest ++ finish) = first ++ rest ++ finish ++ [] := by
      rw [List.append_nil, List.append_assoc]
    have nothing := (record_unique _ first (first ++ rest ++ finish) _ _ w v complete longer same).2
    exact unfinished (List.append_eq_nil_iff.mp nothing).2

def Kind.room : Kind → Nat
  | .text => 0x8000000000000000 + 20
  | _ => 20

theorem write_fits (v : Value) (storable : v.Storable) : v.write.length ≤ v.kind.room := by
  have key : v.kind.key.write.length ≤ 10 := (kind_key_write_spelled v.kind).number.short
  have body : 10 + v.writeBody.length ≤ v.kind.room := by
    cases v with
    | text bytes =>
      have short : bytes.length < 0x8000000000000000 := storable
      have count := (varint_write_spelled bytes.length (by omega)).short
      rw [Value.writeBody, List.length_append, Value.kind, Kind.room]
      omega
    | integer v => exact Nat.add_le_add_left (varint_write_spelled _ (zigzag_bound v)).short 10
    | timestamp millis => exact Nat.add_le_add_left (varint_write_spelled _ (zigzag_bound millis)).short 10
    | boolean v =>
      have single := v.toNat_le
      exact Nat.add_le_add_left (varint_write_spelled v.toNat (by omega)).short 10
    | float v =>
      change 10 + (LittleEndian.write 8 v.bits.toNat).length ≤ 20
      rw [LittleEndian.length_write]
      decide
  rw [Value.write, List.length_append]
  exact Nat.le_trans (Nat.add_le_add_right key _) body

theorem encode_fits (m : Message) (storable : m.Storable) : m.encode.length < 0x10000000000000000 := by
  have room : m.encode.length ≤
      ([Kind.text, .integer, .timestamp, .boolean, .float].map Kind.room).sum := by
    calc m.encode.length
        = (m.values.map fun v => v.write.length).sum := by rw [Message.encode, List.length_flatMap]
      _ ≤ (m.values.map fun v => v.kind.room).sum :=
        List.sum_le_sum fun v member => write_fits v (storable v member)
      _ = ((m.values.map Value.kind).map Kind.room).sum := by rw [List.map_map]; rfl
      _ ≤ _ := ((present_kinds m _).map Kind.room).sum_le_sum fun _ _ => Nat.zero_le _
  exact Nat.lt_of_le_of_lt room (by decide)

theorem decode_delimited_encode (m : Message) (s : Bytes) (storable : m.Storable) :
    Message.decodeDelimited (m.encodeDelimited ++ s) = .ok m := by
  rw [Message.encodeDelimited, encoded_size]
  have written : m = Message.empty.putAll (setValues (m.values.map some)) := by
    rw [set_values_of_some, put_all_values]
  exact (decode_delimited_iff m.encode s m).mpr
    ⟨encode_fits m storable, _, message_records 99 m storable, written⟩

theorem framing_isolates :
    (∀ (m : Message) (s : Bytes), m.Storable →
      Message.decodeDelimited (m.encodeDelimited ++ s) = .ok m) ∧
    (∀ (p s : Bytes) (m : Message),
      Message.decodeDelimited (Varint.write p.length ++ p ++ s) = .ok m →
      Message.decode p = .ok m ∧
      ∀ other, Message.decodeDelimited (Varint.write p.length ++ p ++ other) = .ok m) ∧
    ∀ (limit : Nat) (p : Bytes), EndsInside limit p → ∀ s,
      ∃ e, Message.decodeDelimited (Varint.write p.length ++ p ++ s) = .error e := by
  refine ⟨decode_delimited_encode, ?_, ?_⟩
  · intro p s m decoded
    obtain ⟨short, records, parsed, rfl⟩ := (decode_delimited_iff p s m).mp decoded
    refine ⟨decode_records p records (records_deeper 99 100 (by decide) p records parsed), ?_⟩
    intro other
    exact (decode_delimited_iff p other _).mpr ⟨short, records, parsed, rfl⟩
  · intro limit p cut s
    cases decoded : Message.decodeDelimited (Varint.write p.length ++ p ++ s) with
    | error e => exact ⟨e, rfl⟩
    | ok m =>
      obtain ⟨_, records, parsed, _⟩ := (decode_delimited_iff p s m).mp decoded
      exact absurd parsed (no_records_inside limit 99 p records cut)

theorem integer_and_cut_text_framed :
    Message.Storable ⟨some [0x10, 0x02], some (-1), some Int64.maxValue, some false, some ⟨0x7ff0000000000001⟩⟩ ∧
    Message.decodeDelimited ((Message.mk (some [0x10, 0x02]) (some (-1)) (some Int64.maxValue) (some false)
      (some ⟨0x7ff0000000000001⟩)).encodeDelimited ++ [0x20, 0x01]) =
      .ok ⟨some [0x10, 0x02], some (-1), some Int64.maxValue, some false, some ⟨0x7ff0000000000001⟩⟩ ∧
    Message.decodeDelimited (Varint.write 2 ++ [0x10, 0x02] ++ [0x20, 0x01]) =
      .ok (Message.empty.put (.integer 1)) ∧
    Message.decode [0x10, 0x02] = .ok (Message.empty.put (.integer 1)) ∧
    Message.decodeDelimited (Varint.write 2 ++ [0x10, 0x02] ++ [0x0a]) =
      .ok (Message.empty.put (.integer 1)) ∧
    EndsInside 100 [0x10, 0x02, 0x0a, 0x05, 0x61] ∧
    ∃ e, Message.decodeDelimited (Varint.write 5 ++ [0x10, 0x02, 0x0a, 0x05, 0x61] ++
      [0x62, 0x63, 0x64, 0x65]) = .error e := by
  have storable : Message.Storable
      ⟨some [0x10, 0x02], some (-1), some Int64.maxValue, some false, some ⟨0x7ff0000000000001⟩⟩ := by
    simp [Message.Storable, Message.values, Message.get?, Value.Storable]
  have framed : Message.decodeDelimited (Varint.write 2 ++ [0x10, 0x02] ++ [0x20, 0x01]) =
      .ok (Message.empty.put (.integer 1)) := by cbv
  have integer : readRecord 100 [0x10, 0x02] = .ok (some (.integer 1), []) := by cbv
  have text : readRecord 100 [0x0a, 0x05, 0x61, 0x62, 0x63, 0x64, 0x65] =
      .ok (some (.text [0x61, 0x62, 0x63, 0x64, 0x65]), []) := by cbv
  obtain ⟨first, same, done⟩ := read_record_sound 100 _ _ [] integer
  obtain ⟨second, whole, record⟩ := read_record_sound 100 _ _ [] text
  rw [List.append_nil] at same whole
  have cut : EndsInside 100 ([0x10, 0x02] ++ [0x0a, 0x05, 0x61]) :=
    .cut [0x10, 0x02] [0x0a, 0x05, 0x61] [0x62, 0x63, 0x64, 0x65] _ _
      (records_single 100 _ _ (same ▸ done)) (whole ▸ record) (by decide) (by decide)
  obtain ⟨alone, others⟩ := framing_isolates.2.1 [0x10, 0x02] [0x20, 0x01] _ framed
  exact ⟨storable, framing_isolates.1 _ [0x20, 0x01] storable, framed, alone, others [0x0a], cut,
    framing_isolates.2.2 100 _ cut [0x62, 0x63, 0x64, 0x65]⟩

-- The text takes four bytes from behind the message, and then the length is found exceeded.
example : Message.decodeDelimited [0x05, 0x10, 0x02, 0x0a, 0x05, 0x61, 0x62, 0x63, 0x64, 0x65] =
    .error ⟨none, .lengthExceeded⟩ := by cbv

end SeriesCell
