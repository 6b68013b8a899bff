import SeriesCell.Proofs.Messages

/- Encodings that are cut off. What is left of a message is an error or, where the cut falls between
   two records, the message of its first fields, and never a value that the message does not have. -/
namespace SeriesCell

theorem take_ordered (m : Message) (k : Nat) :
    ((m.values.take k).map Value.kind).Sublist [.text, .integer, .timestamp, .boolean, .float] := by
  rw [List.map_take]
  exact (List.take_sublist k _).trans (present_kinds m _)

theorem mem_values_iff (m : Message) (kind : Kind) (v : Value) :
    m.get? kind = some v ↔ v ∈ m.values ∧ v.kind = kind := by
  rw [Message.values, List.mem_filterMap]
  constructor
  · intro found
    exact ⟨⟨kind, by cases kind <;> decide, found⟩, kind_of_get m kind v found⟩
  · rintro ⟨⟨other, _, found⟩, rfl⟩
    rwa [kind_of_get m other v found]

theorem records_of_start (limit : Nat) (m : Message) (storable : m.Storable) (p rest : Bytes)
    (records : List (Option Value)) (cut : m.encode = p ++ rest) (parsed : Records limit p records) :
    records = (m.values.take records.length).map some ∧
    p = (m.values.take records.length).flatMap Value.write := by
  have all := message_records limit m storable
  rw [cut] at all
  obtain ⟨others, split, _⟩ := records_rest limit p rest records _ parsed all
  have first : records = (m.values.take records.length).map some := by
    rw [List.map_take, split, List.take_left]
  have written := write_all_records limit (m.values.take records.length)
    fun v member => storable v (List.mem_of_mem_take member)
  rw [← first] at written
  have whole : p ++ rest = (m.values.take records.length).flatMap Value.write ++
      (m.values.drop records.length).flatMap Value.write := by
    rw [← cut, ← List.flatMap_append, List.take_append_drop, Message.encode]
  rw [records_same_end limit p _ rest _ records parsed written whole] at whole
  exact ⟨first, List.append_cancel_right whole⟩

theorem torn_message (m : Message) (storable : m.Storable) (p rest : Bytes) (cut : m.encode = p ++ rest)
    (torn : rest ≠ []) :
    (∃ e, Message.decode p = .error e) ∨
    ∃ k, k < m.fieldCount ∧ p = (m.values.take k).flatMap Value.write ∧
      Message.decode p = .ok (Message.empty.putAll (m.values.take k)) := by
  cases decoded : Message.decode p with
  | error e => exact .inl ⟨e, rfl⟩
  | ok n =>
    right
    obtain ⟨records, parsed, rfl⟩ := records_of_decode p n decoded
    obtain ⟨first, written⟩ := records_of_start 100 m storable p rest records cut parsed
    refine ⟨records.length, ?_, written, ?_⟩
    · -- With all the fields there would be nothing to cut off.
      by_contra full
      rw [List.take_of_length_le (by rw [values_length]; omega)] at written
      rw [Message.encode, written] at cut
      exact torn (List.self_eq_append_right.mp cut)
    · have values := congrArg setValues first
      rw [set_values_of_some] at values
      rw [values]

theorem torn_value (v : Value) (storable : v.Storable) (p rest : Bytes)
    (cut : (Cell.holding v).encode.value = p ++ rest) (torn : rest ≠ []) (nonempty : p ≠ []) :
    ∃ e, Message.decode p = .error e := by
  have single : (Message.empty.put v).values = [v] := values_put_empty v
  have held : (Message.empty.put v).Storable := by
    intro w member
    rw [single, List.mem_singleton] at member
    exact member ▸ storable
  rcases torn_message (Message.empty.put v) held p rest cut torn with failed | ⟨k, few, written, _⟩
  · exact failed
  · rw [← values_length, single, List.length_singleton, Nat.lt_one_iff] at few
    subst few
    exact absurd written nonempty

theorem decode_nothing : (Cell.decode []).value = .error .noValue := by
  simp only [Cell.decode, decode_records [] [] .nil]
  rfl

theorem torn_encoding :
    (∀ c : Cell, c ≠ .null → c.Storable → ∀ p rest, c.encode.value = p ++ rest → rest ≠ [] →
      (p ≠ [] → ∃ e, (Cell.decode p).value = .error (.malformed e) ∧
        (Cell.decodeNullable p).value = .error (.malformed e)) ∧
      (p = [] → (Cell.decode p).value = .error .noValue ∧ (Cell.decodeNullable p).value = .ok .null)) ∧
    ∀ m : Message, m.Storable → ∀ p rest, m.encode = p ++ rest → rest ≠ [] →
      (∃ e, Message.decode p = .error e) ∨
      ∃ k n, k < m.fieldCount ∧ Message.decode p = .ok n ∧ n.values = m.values.take k ∧ p = n.encode ∧
        ∀ kind v, n.get? kind = some v → m.get? kind = some v := by
  constructor
  · intro c present storable p rest cut torn
    constructor
    · intro nonempty
      cases c with
      | null => exact absurd rfl present
      | holding v =>
        obtain ⟨e, failed⟩ := torn_value v storable p rest cut torn nonempty
        exact ⟨e, by simp only [Cell.decode, failed], by simp only [Cell.decodeNullable, failed]⟩
    · rintro rfl
      exact ⟨decode_nothing, decode_nullable_encode .null trivial⟩
  · intro m storable p rest cut torn
    rcases torn_message m storable p rest cut torn with failed | ⟨k, few, written, decoded⟩
    · exact .inl failed
    · have values := values_put_all (m.values.take k) (take_ordered m k)
      refine .inr ⟨k, _, few, decoded, values, by rw [Message.encode, values, written], ?_⟩
      intro kind v found
      rw [mem_values_iff, values] at found
      exact (mem_values_iff m kind v).mpr ⟨List.mem_of_mem_take found.1, found.2⟩

-- A text whose bytes are themselves the record of an integer, cut inside and right after it.
theorem torn_text_and_integer :
    (∃ e, (Cell.decodeNullable [0x0a, 0x04, 0x10, 0x02]).value = .error (.malformed e)) ∧
    ((∃ e, Message.decode [0x0a, 0x02, 0x10, 0x02] = .error e) ∨
      ∃ k n, k < 2 ∧ Message.decode [0x0a, 0x02, 0x10, 0x02] = .ok n ∧
        n.values = [Value.text [0x10, 0x02], .integer 4].take k) := by
  constructor
  · obtain ⟨e, _, nullable⟩ := (torn_encoding.1 (.holding (.text [0x10, 0x02, 0x20, 0x01])) (by decide)
      (by simp [Cell.Storable, Value.Storable]) [0x0a, 0x04, 0x10, 0x02] [0x20, 0x01] (by cbv)
      (by decide)).1 (by decide)
    exact ⟨e, nullable⟩
  · have text : (Value.text [0x10, 0x02]).write = [0x0a, 0x02, 0x10, 0x02] := by cbv
    have integer : (Value.integer 4).write = [0x10, 0x08] := write_small_integer 4 (by decide)
    have written : [Value.text [0x10, 0x02], .integer 4].flatMap Value.write =
        [0x0a, 0x02, 0x10, 0x02] ++ [0x10, 0x08] := by
      rw [List.flatMap_cons, List.flatMap_singleton, text, integer]
    have m := torn_encoding.2 ⟨some [0x10, 0x02], some 4, none, none, none⟩
      (by simp [Message.Storable, Message.values, Message.get?, Value.Storable])
      [0x0a, 0x02, 0x10, 0x02] [0x10, 0x08] written (by decide)
    rcases m with failed | ⟨k, n, few, decoded, values, _⟩
    · exact .inl failed
    · exact .inr ⟨k, n, few, decoded, values⟩

end SeriesCell
