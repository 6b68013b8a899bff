import SeriesCell.Proofs.Display
import SeriesCell.Proofs.Repair

namespace SeriesCell

namespace Cell

theorem display_text (b : Bytes) :
    (ofBinary b).display = "Cell\x7b " ++ String.ofList (abbreviate 32 (ofBinary b).text) ++ " \x7d" := rfl

theorem display_short (b : Bytes) (short : (ofBinary b).text.length ≤ 32) :
    (ofBinary b).display = "Cell\x7b " ++ String.ofList (ofBinary b).text ++ " \x7d" := by
  rw [display_text, abbreviate_short 32 _ short]

theorem display_long (b : Bytes) (long : 32 < (ofBinary b).text.length) :
    (ofBinary b).display =
      "Cell\x7b " ++ (String.ofList ((ofBinary b).text.take 32) ++ "...") ++ " \x7d" := by
  rw [display_text, abbreviate_long 32 _ long, String.ofList_append]

theorem place_of_character (text : List Char) (k place : Nat) (c : Char)
    (found : (Utf8.positions 0 text)[k]? = some (place, c)) :
    place = (Utf8.encode (text.take k)).length ∧ place < (Utf8.encode text).length ∧
    Utf8.slice? text 0 place = some (text.take k) := by
  rw [Utf8.positions_at, Nat.zero_add] at found
  obtain ⟨d, present, same⟩ := Option.map_eq_some_iff.mp found
  obtain ⟨rfl, rfl⟩ := Prod.mk.inj same
  obtain ⟨within, rfl⟩ := List.getElem?_eq_some_iff.mp present
  have slice := Utf8.slice_first (text.take k) (text.drop k)
  have whole := congrArg (fun shown => (Utf8.encode shown).length) (List.take_append_drop k text)
  rw [List.take_append_drop] at slice
  simp only [List.drop_eq_getElem_cons within, Utf8.encode_append, List.length_append,
    Utf8.length_encode_cons] at whole
  have positive := text[k].utf8Size_pos
  exact ⟨rfl, by omega, slice⟩

theorem display_long_iff (a b : Bytes) (left : 32 < (ofBinary a).text.length)
    (right : 32 < (ofBinary b).text.length) :
    (ofBinary a).display = (ofBinary b).display ↔
      (ofBinary a).text.take 32 = (ofBinary b).text.take 32 := by
  rw [display_long a left, display_long b right]
  constructor
  · intro alike
    have chars := congrArg String.toList alike
    simp only [String.toList_append, String.toList_ofList] at chars
    exact List.append_cancel_right (List.append_cancel_left (List.append_cancel_right chars))
  · intro same
    rw [same]

theorem maximal_read (part rest : Bytes) (subpart : Utf8.MaximalSubpart part (part ++ rest)) :
    (ofBinary (part ++ rest)).text = Utf8.replacement :: (ofBinary rest).text :=
  (Utf8.repaired_iff _ _).mp (.broken part rest _ subpart (Utf8.repaired_decode rest))

theorem encode_text (b : Bytes) : (ofBinary b).encode.value = 0x0a :: (Varint.write b.length ++ b) := by
  have key : Kind.text.key.write = [0x0a] := by cbv
  rw [ofBinary, encode_holding, Value.write, Value.kind, key]
  rfl

theorem binary_same_iff (a b : Bytes) : (ofBinary a).same (ofBinary b) = true ↔ a = b := by
  simp [same_iff, ofBinary, isNaN]

theorem text_display :
    (∀ b : Bytes,
      ((ofBinary b).text.length ≤ 32 →
        (ofBinary b).display = "Cell\x7b " ++ String.ofList (ofBinary b).text ++ " \x7d") ∧
      (32 < (ofBinary b).text.length → (ofBinary b).display =
        "Cell\x7b " ++ (String.ofList ((ofBinary b).text.take 32) ++ "...") ++ " \x7d") ∧
      ((Utf8.positions 0 (ofBinary b).text)[32]? = none ↔ (ofBinary b).text.length ≤ 32) ∧
      (∀ place c, (Utf8.positions 0 (ofBinary b).text)[32]? = some (place, c) →
        place = (Utf8.encode ((ofBinary b).text.take 32)).length ∧
        place < (Utf8.encode (ofBinary b).text).length ∧
        Utf8.slice? (ofBinary b).text 0 place = some ((ofBinary b).text.take 32)) ∧
      (ofBinary b).bytes = b ∧ (ofBinary b).encode.value = 0x0a :: (Varint.write b.length ++ b)) ∧
    (∀ part rest, Utf8.MaximalSubpart part (part ++ rest) →
      (ofBinary (part ++ rest)).text = Utf8.replacement :: (ofBinary rest).text) ∧
    ∀ a b : Bytes, ((ofBinary a).same (ofBinary b) = true ↔ a = b) ∧
      (32 < (ofBinary a).text.length → 32 < (ofBinary b).text.length →
        ((ofBinary a).display = (ofBinary b).display ↔
          (ofBinary a).text.take 32 = (ofBinary b).text.take 32)) := by
  refine ⟨?_, maximal_read, ?_⟩
  · intro b
    refine ⟨display_short b, display_long b, ?_, ?_, rfl, encode_text b⟩
    · rw [Utf8.positions_at, Option.map_eq_none_iff, List.getElem?_eq_none_iff]
    · intro place c found
      exact place_of_character _ 32 place c found
  · intro a b
    exact ⟨binary_same_iff a b, display_long_iff a b⟩

-- Thirty-one letters and a broken sign are shown whole. With a letter after them the cut comes behind the
-- sign, which fills three bytes in the reading, and another broken sign makes no difference.
theorem broken_sign_at_limit :
    (ofBinary (List.replicate 31 0x61 ++ [0xE2, 0x82])).display =
      "Cell\x7b aaaaaaaaaaaaaaaaaaaaaaaaaaaaaaa\ufffd \x7d" ∧
    (ofBinary (List.replicate 31 0x61 ++ [0xE2, 0x82, 0x62])).display =
      "Cell\x7b aaaaaaaaaaaaaaaaaaaaaaaaaaaaaaa\ufffd... \x7d" ∧
    34 < (Utf8.encode (ofBinary (List.replicate 31 0x61 ++ [0xE2, 0x82, 0x62])).text).length ∧
    (ofBinary (List.replicate 31 0x61 ++ [0xE2, 0x82, 0x62])).display =
      (ofBinary (List.replicate 31 0x61 ++ [0xFF, 0x63])).display ∧
    (ofBinary [0xFF, 0x63]).text = Utf8.replacement :: (ofBinary [0x63]).text := by
  have whole : (ofBinary (List.replicate 31 0x61 ++ [0xE2, 0x82])).text =
      List.replicate 31 'a' ++ ['\uFFFD'] := by decide
  have cut : (ofBinary (List.replicate 31 0x61 ++ [0xE2, 0x82, 0x62])).text =
      List.replicate 31 'a' ++ ['\uFFFD', 'b'] := by decide
  have other : (ofBinary (List.replicate 31 0x61 ++ [0xFF, 0x63])).text =
      List.replicate 31 'a' ++ ['\uFFFD', 'c'] := by decide
  have place : (Utf8.positions 0 (List.replicate 31 'a' ++ ['\uFFFD', 'b']))[32]? = some (34, 'b') := by decide
  obtain ⟨shown, parts, alike⟩ := text_display
  refine ⟨?_, ?_, ?_, ?_, ?_⟩
  · rw [(shown _).1 (by rw [whole]; decide), whole]
    decide
  · rw [(shown _).2.1 (by rw [cut]; decide), cut]
    decide
  · exact ((shown _).2.2.2.1 34 'b' (by rw [cut]; exact place)).2.1
  · exact ((alike _ _).2 (by rw [cut]; decide) (by rw [other]; decide)).mpr (by rw [cut, other]; decide)
  · exact parts [0xFF] [0x63] (Utf8.single_maximal 0xFF [0x63] (Utf8.astray_begins_nothing 0xFF rfl))

end Cell

end SeriesCell
