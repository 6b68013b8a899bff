import Mathlib.Data.List.Basic
import SeriesCell.Proofs.RoundTrip

namespace SeriesCell

def Message.Storable (m : Message) : Prop := ∀ v ∈ m.values, v.Storable

theorem kind_of_get (m : Message) (kind : Kind) (v : Value) (found : m.get? kind = some v) :
    v.kind = kind := by
  cases kind <;> obtain ⟨_, _, rfl⟩ := Option.map_eq_some_iff.mp found <;> rfl

theorem present_kinds (m : Message) (kinds : List Kind) :
    ((kinds.filterMap m.get?).map Value.kind).Sublist kinds := by
  induction kinds with
  | nil => exact .slnil
  | cons kind kinds ih =>
    cases found : m.get? kind with
    | none =>
      rw [List.filterMap_cons_none found]
      exact .cons kind ih
    | some v =>
      rw [List.filterMap_cons_some found, List.map_cons, kind_of_get m kind v found]
      exact .cons_cons kind ih

theorem last_of_absent (kind : Kind) (values : List Value) (absent : kind ∉ values.map Value.kind) :
    lastOf? kind values = none := by
  rw [lastOf?, List.find?_eq_none]
  intro v member same
  apply absent
  rw [← of_decide_eq_true same]
  exact List.mem_map_of_mem (List.mem_reverse.mp member)

theorem last_of_ordered (kinds : List Kind) (distinct : kinds.Nodup) (values : List Value)
    (ordered : (values.map Value.kind).Sublist kinds) :
    kinds.filterMap (fun kind => lastOf? kind values) = values := by
  induction kinds generalizing values with
  | nil =>
    rw [List.map_eq_nil_iff.mp (List.sublist_nil.mp ordered)]
    rfl
  | cons kind kinds ih =>
    obtain ⟨fresh, others⟩ := List.nodup_cons.mp distinct
    rcases List.sublist_cons_iff.mp ordered with skipped | ⟨rest, split, more⟩
    · have absent := last_of_absent kind values fun member => fresh (skipped.subset member)
      simp only [List.filterMap_cons, absent]
      exact ih others values skipped
    · obtain ⟨v, values, rfl, rfl, rfl⟩ := List.map_eq_cons_iff.mp split
      have absent := last_of_absent v.kind values fun member => fresh (more.subset member)
      have found : lastOf? v.kind (v :: values) = some v := by
        rw [last_of_cons, absent, if_pos rfl, Option.none_or]
      have elsewhere : ∀ kind ∈ kinds, lastOf? kind (v :: values) = lastOf? kind values := by
        intro kind member
        have different : v.kind ≠ kind := fun same => fresh (same ▸ member)
        rw [last_of_cons, if_neg different, Option.or_none]
      simp only [List.filterMap_cons, found]
      rw [List.filterMap_congr elsewhere, ih others values more]

theorem values_put_all (values : List Value)
    (ordered : (values.map Value.kind).Sublist [.text, .integer, .timestamp, .boolean, .float]) :
    (Message.empty.putAll values).values = values := by
  have lookup : (Message.empty.putAll values).get? = fun kind => lastOf? kind values := by
    funext kind
    rw [get_put_all, get_empty, Option.or_none]
  rw [Message.values, lookup]
  exact last_of_ordered _ (by decide) values ordered

theorem put_all_values (m : Message) : Message.empty.putAll m.values = m := by
  obtain ⟨text, integer, timestamp, boolean, float⟩ := m
  cases text <;> cases integer <;> cases timestamp <;> cases boolean <;> cases float <;> rfl

theorem values_length (m : Message) : m.values.length = m.fieldCount := by
  obtain ⟨text, integer, timestamp, boolean, float⟩ := m
  cases text <;> cases integer <;> cases timestamp <;> cases boolean <;> cases float <;> rfl

theorem write_all_records (limit : Nat) (values : List Value) (storable : ∀ v ∈ values, v.Storable) :
    Records limit (values.flatMap Value.write) (values.map some) := by
  induction values with
  | nil => exact .nil
  | cons v values ih =>
    rw [List.flatMap_cons, List.map_cons]
    exact .cons v.write _ (some v) _ (write_record limit v (storable v List.mem_cons_self))
      (ih fun w member => storable w (List.mem_cons_of_mem v member))

theorem message_records (limit : Nat) (m : Message) (storable : m.Storable) :
    Records limit m.encode (m.values.map some) :=
  write_all_records limit m.values storable

theorem decode_encode_message (m : Message) (storable : m.Storable) : Message.decode m.encode = .ok m := by
  rw [decode_records m.encode _ (message_records 100 m storable), set_values_of_some, put_all_values]

theorem body_size (v : Value) : v.bodySize = v.writeBody.length := by
  cases v with
  | text bytes => rw [Value.bodySize, Value.writeBody, List.length_append, Varint.length_write]
  | integer v => rw [Value.bodySize, Value.writeBody, Varint.length_write]
  | timestamp millis => rw [Value.bodySize, Value.writeBody, Varint.length_write]
  | boolean v => cases v <;> rw [Value.bodySize, Value.writeBody, Varint.length_write] <;> rfl
  | float v => rw [Value.bodySize, Value.writeBody, LittleEndian.length_write]

theorem write_size (v : Value) : v.size = v.write.length := by
  rw [Value.size, Value.write, List.length_append, Key.write, Varint.length_write, body_size]

theorem total_size (values : List Value) :
    values.foldr (fun v total => v.size + total) 0 = (values.flatMap Value.write).length := by
  induction values with
  | nil => rfl
  | cons v values ih => rw [List.foldr_cons, List.flatMap_cons, List.length_append, ih, write_size]

theorem encoded_size (m : Message) : m.encodedSize = m.encode.length := total_size m.values

theorem write_ne_nil (v : Value) : v.write ≠ [] := by
  have size := write_size v
  rw [Value.size, Varint.size] at size
  exact List.length_pos_iff.mp (by omega)

theorem encode_nil_iff (m : Message) : m.encode = [] ↔ m.isEmpty = true := by
  have valueless : m.isEmpty = true ↔ m.values = [] := by
    rw [Message.isEmpty, beq_iff_eq, ← values_length, List.length_eq_zero_iff]
  rw [valueless, Message.encode, List.flatMap_eq_nil_iff]
  constructor
  · intro silent
    exact List.eq_nil_iff_forall_not_mem.mpr fun v member => write_ne_nil v (silent v member)
  · intro empty v member
    simp [empty] at member

theorem message_round_trip (m : Message) (storable : m.Storable) :
    Message.decode m.encode = .ok m ∧
    m.encodedSize = m.encode.length ∧
    (m.encode = [] ↔ m.isEmpty = true) ∧
    (∀ limit, Records limit m.encode (m.values.map some) ∧
      ∀ records, Records limit m.encode records → records.length = m.fieldCount) ∧
    Cell.decodeNullable m.encode = m.toCellNullable.map .ok ∧
    Cell.decode m.encode = m.toCell := by
  have decoded := decode_encode_message m storable
  refine ⟨decoded, encoded_size m, encode_nil_iff m, ?_, ?_, ?_⟩
  · intro limit
    have written := message_records limit m storable
    refine ⟨written, ?_⟩
    intro records parsed
    rw [records_unique limit m.encode _ records written parsed, List.length_map, values_length]
  · simp only [Cell.decodeNullable, decoded]
  · simp only [Cell.decode, decoded]

theorem full_message_round_trip :
    Message.Storable ⟨some [0x10, 0x02], some 0, some Int64.minValue, some false, some ⟨0xfff0000000000123⟩⟩ ∧
    Message.decode (Message.mk (some [0x10, 0x02]) (some 0) (some Int64.minValue) (some false)
      (some ⟨0xfff0000000000123⟩)).encode =
      .ok ⟨some [0x10, 0x02], some 0, some Int64.minValue, some false, some ⟨0xfff0000000000123⟩⟩ := by
  have storable : Message.Storable
      ⟨some [0x10, 0x02], some 0, some Int64.minValue, some false, some ⟨0xfff0000000000123⟩⟩ := by
    simp [Message.Storable, Message.values, Message.get?, Value.Storable]
  exact ⟨storable, (message_round_trip _ storable).1⟩

end SeriesCell
