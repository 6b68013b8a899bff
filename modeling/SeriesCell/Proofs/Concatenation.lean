import SeriesCell.Proofs.RoundTrip

/- Messages one after the other. Bytes that are read go on with any bytes as if the reader had started
   there, with the same error, and the fields of the later message override those of the earlier. -/
namespace SeriesCell

theorem decode_append (a b : Bytes) (m : Message) (accepted : Message.decode a = .ok m) :
    Message.decode (a ++ b) = (m.merge b).toExcept := by
  obtain ⟨records, parsed, rfl⟩ := records_of_decode a m accepted
  have run := merge_records 100 Message.empty a b records parsed
  simp only [Message.decode, Message.merge, Message.skipLimit, run]

theorem merge_fails_iff (m : Message) (b : Bytes) (e : DecodeError) :
    (m.merge b).toExcept = .error e ↔ Message.decode b = .error e := by
  have independent : (m.merge b).error = (Message.empty.merge b).error :=
    merge_error_independent 100 m Message.empty b
  simp only [Message.decode, Merged.toExcept, independent]
  cases (Message.empty.merge b).error <;> simp

theorem merge_overrides (m n : Message) (b : Bytes) (accepted : Message.decode b = .ok n) :
    m.merge b = ⟨m.override n, none⟩ := by
  obtain ⟨records, parsed, rfl⟩ := records_of_decode b n accepted
  rw [← put_all_override]
  exact merge_all_records 100 m b records parsed

theorem unknown_records_invisible (a u b : Bytes) (m : Message) (records : List (Option Value))
    (accepted : Message.decode a = .ok m) (parsed : Records 100 u records)
    (unknown : ∀ v ∈ records, v = none) :
    Message.decode (a ++ u ++ b) = Message.decode (a ++ b) := by
  have skipped : m.merge (u ++ b) = m.merge b := by
    have run := merge_records 100 m u b records parsed
    rwa [set_values_unknown records unknown] at run
  rw [List.append_assoc, decode_append a (u ++ b) m accepted, skipped, decode_append a b m accepted]

theorem encode_all_records (limit : Nat) (cells : List Cell) (storable : ∀ c ∈ cells, c.Storable) :
    Records limit (cells.flatMap fun c => c.encode.value) ((cells.filterMap Cell.value?).map some) := by
  induction cells with
  | nil => exact .nil
  | cons c cells ih =>
    have first := encode_records limit c (storable c List.mem_cons_self)
    have others := ih (fun d member => storable d (List.mem_cons_of_mem c member))
    have both := records_append limit _ _ _ _ first others
    rw [← List.map_append] at both
    rw [List.flatMap_cons, List.filterMap_cons]
    cases c <;> exact both

theorem concatenation_overrides :
    (∀ (a b : Bytes) (m : Message), Message.decode a = .ok m →
      (∀ e, Message.decode (a ++ b) = .error e ↔ Message.decode b = .error e) ∧
      (∀ n, Message.decode b = .ok n →
        Message.decode (a ++ b) = .ok (m.override n) ∧ m.merge b = ⟨m.override n, none⟩) ∧
      ∀ u records, Records 100 u records → (∀ v ∈ records, v = none) →
        Message.decode (a ++ u ++ b) = Message.decode (a ++ b)) ∧
    ∀ cells : List Cell, (∀ c ∈ cells, c.Storable) →
      (Cell.decodeNullable (cells.flatMap fun c => c.encode.value)).value =
        .ok (Cell.ofValue? (prevailing? (cells.filterMap Cell.value?))) := by
  constructor
  · intro a b m accepted
    refine ⟨?_, ?_, ?_⟩
    · intro e
      rw [decode_append a b m accepted]
      exact merge_fails_iff m b e
    · intro n later
      have merged := merge_overrides m n b later
      exact ⟨by rw [decode_append a b m accepted, merged]; rfl, merged⟩
    · intro u records parsed unknown
      exact unknown_records_invisible a u b m records accepted parsed unknown
  · intro cells storable
    rw [decode_nullable_records _ _ (encode_all_records 100 cells storable), set_values_of_some]

theorem integer_then_boolean :
    Message.decode [0x10, 0x02] = .ok (Message.empty.put (.integer 1)) ∧
    Message.decode ([0x10, 0x02] ++ [0x20, 0x01]) =
      .ok ((Message.empty.put (.integer 1)).override (Message.empty.put (.boolean true))) := by
  have first : Message.decode [0x10, 0x02] = .ok (Message.empty.put (.integer 1)) := by cbv
  have second : Message.decode [0x20, 0x01] = .ok (Message.empty.put (.boolean true)) := by cbv
  have overridden := (concatenation_overrides.1 [0x10, 0x02] [0x20, 0x01] _ first).2.1 _ second
  exact ⟨first, overridden.1⟩

end SeriesCell
