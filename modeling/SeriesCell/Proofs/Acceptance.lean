import SeriesCell.Cell.Codec
import SeriesCell.Proofs.Merging

/- Which bytes are read as a cell, and as which. Bytes are read exactly if they are records up to the
   end, and the cell holds the value that prevails among those that the records set. -/
namespace SeriesCell

def Cell.ofValue? : Option Value → Cell
  | some v => .holding v
  | none => .null

theorem empty_iff_no_preferred (m : Message) : m.isEmpty = true ↔ m.preferred? = none := by
  obtain ⟨text, integer, timestamp, boolean, float⟩ := m
  cases text <;> cases integer <;> cases timestamp <;> cases boolean <;> cases float <;>
    simp [Message.isEmpty, Message.fieldCount, Message.preferred?, Message.get?]

theorem present_cell_value (m : Message) : m.presentCell.value = Cell.ofValue? m.preferred? := by
  rw [Message.presentCell]
  cases m.preferred? <;> rfl

theorem to_cell_nullable_value (m : Message) :
    m.toCellNullable.value = Cell.ofValue? m.preferred? := by
  rw [Message.toCellNullable]
  by_cases empty : m.isEmpty = true
  · rw [if_pos empty, (empty_iff_no_preferred m).mp empty]
    rfl
  · rw [if_neg empty]
    exact present_cell_value m

theorem to_cell_value (m : Message) (v : Value) (preferred : m.preferred? = some v) :
    m.toCell.value = .ok (.holding v) := by
  have present : ¬ m.isEmpty = true := by simp [empty_iff_no_preferred, preferred]
  have cell := present_cell_value m
  rw [preferred] at cell
  rw [Message.toCell, if_neg present, Traced.map, cell]
  rfl

theorem decode_nullable_records (b : Bytes) (records : List (Option Value))
    (parsed : Records 100 b records) :
    (Cell.decodeNullable b).value = .ok (Cell.ofValue? (prevailing? (setValues records))) := by
  simp only [Cell.decodeNullable, decode_records b records parsed, Traced.map,
    to_cell_nullable_value, preferred_put_all]

theorem decode_strict_records (b : Bytes) (records : List (Option Value)) (v : Value)
    (parsed : Records 100 b records) (prevails : prevailing? (setValues records) = some v) :
    (Cell.decode b).value = .ok (.holding v) := by
  simp only [Cell.decode, decode_records b records parsed]
  exact to_cell_value _ v (by rw [preferred_put_all, prevails])

theorem records_of_decode_nullable (b : Bytes) (c : Cell)
    (decoded : (Cell.decodeNullable b).value = .ok c) : ∃ records, Records 100 b records := by
  cases message : Message.decode b with
  | error e => simp [Cell.decodeNullable, message] at decoded
  | ok m =>
    obtain ⟨records, parsed, _⟩ := records_of_decode b m message
    exact ⟨records, parsed⟩

theorem decode_nullable_accepts :
    (∀ b, (∃ c, (Cell.decodeNullable b).value = .ok c) ↔ ∃ records, Records 100 b records) ∧
    (∀ b c, (Cell.decodeNullable b).value = .ok c ↔
      ∃ records, Records 100 b records ∧ c = Cell.ofValue? (prevailing? (setValues records))) ∧
    (∀ kind : Kind, (kind.tag, kind.wireType.code) =
      match kind with
      | .text => (1, 2)
      | .integer => (2, 0)
      | .timestamp => (3, 0)
      | .boolean => (4, 0)
      | .float => (5, 1)) ∧
    [WireType.varint, .fixed64, .delimited, .groupStart, .groupEnd, .fixed32].map WireType.code =
      [0, 1, 2, 3, 4, 5] := by
  refine ⟨?_, ?_, ?_, rfl⟩
  · intro b
    constructor
    · rintro ⟨c, decoded⟩
      exact records_of_decode_nullable b c decoded
    · rintro ⟨records, parsed⟩
      exact ⟨_, decode_nullable_records b records parsed⟩
  · intro b c
    constructor
    · intro decoded
      obtain ⟨records, parsed⟩ := records_of_decode_nullable b c decoded
      have same := decoded.symm.trans (decode_nullable_records b records parsed)
      exact ⟨records, parsed, Except.ok.inj same⟩
    · rintro ⟨records, parsed, rfl⟩
      exact decode_nullable_records b records parsed
  · intro kind
    cases kind <;> rfl

theorem negative_integer_and_double :
    (Cell.decodeNullable [0x10, 0x29]).value = .ok (.holding (.integer (-21))) ∧
    (Cell.decodeNullable [0x29, 0, 0, 0, 0, 0, 0, 0xf8, 0x3f, 0x10, 0x29]).value =
      .ok (.holding (.float ⟨0x3ff8000000000000⟩)) := by
  have integer : Record 100 [0x10, 0x29] (some (.integer (-21))) := by
    have number : SpelledNumber [0x29] 41 := ⟨.last 0x29 (by decide), by decide, by simp⟩
    have key : SpelledKey [0x10] Kind.integer.key :=
      ⟨⟨.last 0x10 (by decide), by decide, by simp⟩, by decide, by decide⟩
    exact .field (.integer (-21)) [0x10] [0x29] key (.integer [0x29] 41 (-21) number (.odd 20))
  have double : Record 100 [0x29, 0, 0, 0, 0, 0, 0, 0xf8, 0x3f] (some (.float ⟨0x3ff8000000000000⟩)) := by
    have key : SpelledKey [0x29] Kind.float.key :=
      ⟨⟨.last 0x29 (by decide), by decide, by simp⟩, by decide, by decide⟩
    exact .field (.float ⟨0x3ff8000000000000⟩) [0x29] [0, 0, 0, 0, 0, 0, 0xf8, 0x3f] key
      (.float _ _ (by decide) (by decide))
  have alone := records_single 100 _ _ integer
  have both := Records.cons _ _ _ _ double alone
  obtain ⟨_, meaning, _⟩ := decode_nullable_accepts
  exact ⟨(meaning _ _).mpr ⟨_, alone, rfl⟩, (meaning _ _).mpr ⟨_, both, rfl⟩⟩

example : (Cell.decodeNullable [0x10, 0x02, 0x20, 0x01, 0x10, 0x04]).value =
    .ok (.holding (.boolean true)) := by cbv

end SeriesCell
