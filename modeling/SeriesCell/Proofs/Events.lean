import Mathlib.Data.List.Dedup
import SeriesCell.Proofs.Torn

/- What decoding reports. Bytes that are no message are refused in silence. For all others the report
   depends on how many different fields their records set, and a warning tells of more than one. -/
namespace SeriesCell

def fieldTags (records : List (Option Value)) : List Nat :=
  ((setValues records).map fun v => v.kind.tag).dedup

structure Reported (b : Bytes) (n : Nat) (winner : Option Value) : Prop where
  valueless : n = 0 → winner = none ∧ Cell.decodeNullable b = ⟨.ok .null, [.decodedNull]⟩ ∧
    Cell.decode b = ⟨.error .noValue, [.rejectedEmpty]⟩
  single : n = 1 → ∃ v, winner = some v ∧
    Cell.decodeNullable b = ⟨.ok (.holding v), [.decoded (some v.kind)]⟩ ∧
    Cell.decode b = ⟨.ok (.holding v), [.decoded (some v.kind)]⟩
  several : 1 < n → ∃ v, winner = some v ∧
    Cell.decodeNullable b = ⟨.ok (.holding v), [.severalValues n, .decoded (some v.kind)]⟩ ∧
    Cell.decode b = ⟨.ok (.holding v), [.severalValues n, .decoded (some v.kind)]⟩

def Refused (b : Bytes) : Prop :=
  ∃ e, Cell.decodeNullable b = ⟨.error (.malformed e), []⟩ ∧
    Cell.decode b = ⟨.error (.malformed e), []⟩

def Warned (b : Bytes) : Prop :=
  ∃ event ∈ (Cell.decodeNullable b).events ++ (Cell.decode b).events, event.level = .warn

theorem tag_injective : Function.Injective Kind.tag := by
  intro first second same
  exact Option.some.inj (((kind_of_tag_iff second.tag first).mpr same).symm.trans
    ((kind_of_tag_iff second.tag second).mpr rfl))

theorem last_of_some_iff (kind : Kind) (values : List Value) :
    (lastOf? kind values).isSome ↔ kind ∈ values.map Value.kind := by
  rw [lastOf?, List.find?_isSome, List.mem_map]
  simp only [List.mem_reverse, decide_eq_true_iff]

theorem put_all_kinds (values : List Value) (kind : Kind) :
    kind ∈ (Message.empty.putAll values).values.map Value.kind ↔ kind ∈ values.map Value.kind := by
  have lookup := get_put_all Message.empty values kind
  rw [get_empty, Option.or_none] at lookup
  rw [← last_of_some_iff kind values, ← lookup, Option.isSome_iff_exists, List.mem_map]
  simp only [mem_values_iff]

theorem field_count_distinct (values : List Value) :
    (Message.empty.putAll values).fieldCount = (values.map fun v => v.kind.tag).dedup.length := by
  have distinct : ((Message.empty.putAll values).values.map Value.kind).Nodup :=
    (present_kinds _ _).nodup (by decide)
  have same : ((Message.empty.putAll values).values.map Value.kind).Perm (values.map Value.kind).dedup := by
    rw [List.perm_ext_iff_of_nodup distinct (List.nodup_dedup _)]
    intro kind
    rw [List.mem_dedup, put_all_kinds]
  have tags : (values.map fun v => v.kind.tag) = (values.map Value.kind).map Kind.tag := by
    rw [List.map_map]
    rfl
  rw [tags, List.dedup_map_of_injective tag_injective, List.length_map, ← same.length_eq, List.length_map,
    values_length]

theorem decode_present_message (b : Bytes) (m : Message) (decoded : Message.decode b = .ok m)
    (present : m.fieldCount ≠ 0) :
    Cell.decodeNullable b = m.presentCell.map .ok ∧ Cell.decode b = m.presentCell.map .ok := by
  have nonempty : ¬ m.isEmpty = true := fun empty => present (beq_iff_eq.mp empty)
  constructor
  · simp only [Cell.decodeNullable, decoded, Message.toCellNullable, if_neg nonempty]
  · simp only [Cell.decode, decoded, Message.toCell, if_neg nonempty]

theorem preferred_of_present (m : Message) (present : m.fieldCount ≠ 0) : ∃ v, m.preferred? = some v := by
  apply Option.ne_none_iff_exists'.mp
  intro nothing
  exact present (beq_iff_eq.mp ((empty_iff_no_preferred m).mpr nothing))

theorem reported_message (b : Bytes) (m : Message) (decoded : Message.decode b = .ok m) :
    Reported b m.fieldCount m.preferred? where
  valueless := by
    intro zero
    have empty : m.isEmpty = true := beq_iff_eq.mpr zero
    refine ⟨(empty_iff_no_preferred m).mp empty, ?_, ?_⟩
    · simp only [Cell.decodeNullable, decoded, Message.toCellNullable, if_pos empty, Traced.map]
    · simp only [Cell.decode, decoded, Message.toCell, if_pos empty]
  single := by
    intro one
    obtain ⟨v, preferred⟩ := preferred_of_present m (by omega)
    have quiet : m.presentCell = ⟨.holding v, [.decoded (some v.kind)]⟩ := by
      have few : ¬ 1 < m.fieldCount := by omega
      simp only [Message.presentCell, preferred, if_neg few, List.nil_append, Cell.kind]
    obtain ⟨nullable, strict⟩ := decode_present_message b m decoded (by omega)
    rw [quiet] at nullable strict
    exact ⟨v, preferred, nullable, strict⟩
  several := by
    intro more
    obtain ⟨v, preferred⟩ := preferred_of_present m (by omega)
    have loud : m.presentCell =
        ⟨.holding v, [.severalValues m.fieldCount, .decoded (some v.kind)]⟩ := by
      simp only [Message.presentCell, preferred, if_pos more, List.singleton_append, Cell.kind]
    obtain ⟨nullable, strict⟩ := decode_present_message b m decoded (by omega)
    rw [loud] at nullable strict
    exact ⟨v, preferred, nullable, strict⟩

theorem reported_records (b : Bytes) (records : List (Option Value)) (parsed : Records 100 b records) :
    Reported b (fieldTags records).length (prevailing? (setValues records)) := by
  rw [fieldTags, ← field_count_distinct, ← preferred_put_all]
  exact reported_message b _ (decode_records b records parsed)

theorem refused_without_records (b : Bytes) (broken : ∀ records, ¬ Records 100 b records) : Refused b := by
  cases decoded : Message.decode b with
  | error e => exact ⟨e, by simp only [Cell.decodeNullable, decoded], by simp only [Cell.decode, decoded]⟩
  | ok m =>
    obtain ⟨records, parsed, _⟩ := records_of_decode b m decoded
    exact absurd parsed (broken records)

theorem refused_silent (b : Bytes) (refused : Refused b) : ¬ Warned b := by
  obtain ⟨e, nullable, strict⟩ := refused
  rintro ⟨event, member, _⟩
  rw [nullable, strict] at member
  cases member

theorem few_fields_silent (b : Bytes) (n : Nat) (winner : Option Value) (reported : Reported b n winner)
    (few : n ≤ 1) : ¬ Warned b := by
  rintro ⟨event, member, warning⟩
  rcases Nat.le_one_iff_eq_zero_or_eq_one.mp few with zero | one
  · obtain ⟨_, nullable, strict⟩ := reported.valueless zero
    rw [nullable, strict] at member
    rcases List.mem_pair.mp member with rfl | rfl
    · cases warning
    · cases warning
  · obtain ⟨v, _, nullable, strict⟩ := reported.single one
    rw [nullable, strict] at member
    rcases List.mem_pair.mp member with rfl | rfl
    · cases warning
    · cases warning

-- The number of bytes is written in full, and one of more than 64 bits cannot be read.
theorem long_text_refused (limit : Nat) (bytes : Bytes) (long : 0x10000000000000000 ≤ bytes.length)
    (records : List (Option Value)) : ¬ Records limit (Value.text bytes).write records := by
  intro parsed
  have key := (key_read_iff Kind.text.key (Value.text bytes).write (Value.text bytes).writeBody).mpr
    ⟨Kind.text.key.write, rfl, kind_key_write_spelled .text⟩
  have failed : readRecord limit (Value.text bytes).write = .error ⟨some .text, .badVarint⟩ := by
    have known := (kind_of_tag_iff Kind.text.key.tag .text).mpr rfl
    have typed : Kind.text.key.type = Kind.text.wireType := rfl
    simp only [readRecord, key, known, if_pos typed, Value.readBody, Value.writeBody,
      large_number_unread bytes.length bytes long]
  generalize written : (Value.text bytes).write = b at parsed
  cases parsed with
  | nil => exact write_ne_nil _ written
  | cons first rest v others record more =>
    rw [written, read_record_complete limit v first rest record] at failed
    cases failed

theorem written_fields (v : Value) (records : List (Option Value)) (parsed : Records 100 v.write records) :
    records = [some v] := by
  have alone : Record 100 v.write (some v) := by
    cases v with
    | text bytes =>
      have short : bytes.length < 0x10000000000000000 := by
        by_contra long
        exact long_text_refused 100 bytes (Nat.le_of_not_lt long) records parsed
      have count := varint_write_spelled bytes.length short
      exact .field _ _ _ (kind_key_write_spelled .text) (.text _ bytes count)
    | _ => exact write_record 100 _ trivial
  exact records_unique 100 v.write [some v] records (records_single 100 v.write (some v) alone) parsed

theorem written_silent (c : Cell) : ¬ Warned c.encode.value := by
  by_cases readable : ∃ records, Records 100 c.encode.value records
  · obtain ⟨records, parsed⟩ := readable
    apply few_fields_silent _ _ _ (reported_records _ records parsed)
    cases c with
    | null =>
      rw [records_of_nil 100 records parsed]
      exact Nat.zero_le 1
    | holding v =>
      rw [encode_holding] at parsed
      rw [written_fields v records parsed]
      exact Nat.le_refl 1
  · exact refused_silent _ (refused_without_records _ fun records parsed => readable ⟨records, parsed⟩)

theorem trace_summaries (kind : Option Kind) :
    (Event.encoded kind).summary = "TRACE encoded cell kind=" ++ kindName kind ∧
    (Event.decoded kind).summary = "TRACE decoded cell kind=" ++ kindName kind := by
  refine ⟨String.toList_inj.mp ?_, String.toList_inj.mp ?_⟩
  · simp [Event.summary, Event.text, Event.details, Event.message, Event.level, Level.name]
  · simp [Event.summary, Event.text, Event.details, Event.message, Event.level, Level.name]

theorem warning_summary (n : Nat) : (Event.severalValues n).summary =
    "WARN wire cell carries more than one value, keeping the first by precedence fields=" ++ toString n := by
  apply String.toList_inj.mp
  simp [Event.summary, Event.text, Event.details, Event.message, Event.level, Level.name]

theorem decoding_reports :
    (∀ b, (∀ records, ¬ Records 100 b records) → Refused b) ∧
    (∀ b records, Records 100 b records →
      Reported b (fieldTags records).length (prevailing? (setValues records))) ∧
    (Cell.null.encode.events = [.encoded none] ∧
      ∀ v, (Cell.holding v).encode.events = [.encoded (some v.kind)]) ∧
    (∀ c : Cell, ¬ Warned c.encode.value) ∧
    (kindName none = "Unset" ∧ ∀ v : Value, (v.kind.tag, kindName (some v.kind)) =
      match v with
      | .text _ => (1, "Text")
      | .integer _ => (2, "Integer")
      | .timestamp _ => (3, "Timestamp")
      | .boolean _ => (4, "Boolean")
      | .float _ => (5, "Float")) ∧
    (∀ kind, (Event.encoded kind).summary = "TRACE encoded cell kind=" ++ kindName kind ∧
      (Event.decoded kind).summary = "TRACE decoded cell kind=" ++ kindName kind) ∧
    (Event.decodedNull.summary = "TRACE decoded NULL cell" ∧
      Event.rejectedEmpty.summary = "DEBUG rejecting wire cell with no value") ∧
    ∀ n, (Event.severalValues n).summary =
      "WARN wire cell carries more than one value, keeping the first by precedence fields=" ++ toString n := by
  refine ⟨refused_without_records, reported_records, ⟨rfl, fun _ => rfl⟩, written_silent, ⟨rfl, ?_⟩,
    trace_summaries, ⟨by decide, by decide⟩, warning_summary⟩
  intro v
  cases v <;> rfl

-- Two integers are one field, and the boolean inside the group of an unknown tag is none.
theorem repeated_integer_and_text :
    Refused [0x10] ∧
    Cell.decodeNullable [0x10, 0x02, 0x10, 0x04, 0x33, 0x20, 0x01, 0x34, 0x0a, 0x01, 0x61] =
      ⟨.ok (.holding (.integer 2)), [.severalValues 2, .decoded (some .integer)]⟩ ∧
    Cell.decode [0x10, 0x02, 0x10, 0x04, 0x33, 0x20, 0x01, 0x34, 0x0a, 0x01, 0x61] =
      ⟨.ok (.holding (.integer 2)), [.severalValues 2, .decoded (some .integer)]⟩ ∧
    (Event.decoded (some .integer)).summary = "TRACE decoded cell kind=Integer" ∧
    (Event.severalValues 2).summary =
      "WARN wire cell carries more than one value, keeping the first by precedence fields=2" := by
  have broken : ∀ records, ¬ Records 100 [0x10] records := by
    intro records parsed
    have decoded := decode_records [0x10] records parsed
    have failed : Message.decode [0x10] = .error ⟨some .integer, .badVarint⟩ := by cbv
    rw [failed] at decoded
    cases decoded
  have parsed : Records 100 [0x10, 0x02, 0x10, 0x04, 0x33, 0x20, 0x01, 0x34, 0x0a, 0x01, 0x61]
      [some (.integer 1), some (.integer 2), none, some (.text [0x61])] := by
    apply records_of_read 100 _ [0x10, 0x04, 0x33, 0x20, 0x01, 0x34, 0x0a, 0x01, 0x61] _ _ (by cbv)
    apply records_of_read 100 _ [0x33, 0x20, 0x01, 0x34, 0x0a, 0x01, 0x61] _ _ (by cbv)
    apply records_of_read 100 _ [0x0a, 0x01, 0x61] _ _ (by cbv)
    exact records_of_read 100 _ [] _ _ (by cbv) .nil
  obtain ⟨refused, reported, _, _, _, traces, _, warning⟩ := decoding_reports
  obtain ⟨v, winner, nullable, strict⟩ := (reported _ _ parsed).several (by decide)
  cases winner
  exact ⟨refused _ broken, nullable, strict, (traces (some .integer)).2, warning 2⟩

end SeriesCell
