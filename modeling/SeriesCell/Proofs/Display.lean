import SeriesCell.Cell.Display
import SeriesCell.Cell.Literal
import SeriesCell.Proofs.Characters
import SeriesCell.Proofs.FloatText
import SeriesCell.Proofs.Sameness

/- What a reader is shown can be typed back. Only text loses anything on display: what is no UTF-8, and
   what is beyond the limit. -/
namespace SeriesCell

def Kind.literalName : Kind → List Char
  | .text => "varchar".toList
  | .integer => "sint64".toList
  | .timestamp => "timestamp".toList
  | .boolean => "boolean".toList
  | .float => "double".toList

def Value.ShownWhole : Value → Prop
  | .text bytes => ∃ text, bytes = Utf8.encode text ∧ text.length ≤ Cell.displayLimit
  | _ => True

namespace Cell

theorem abbreviate_short (limit : Nat) (text : List Char) (short : text.length ≤ limit) :
    abbreviate limit text = text := by
  have absent : text[limit]? = none := List.getElem?_eq_none short
  simp only [abbreviate, Utf8.positions_at, absent, Option.map_none]

theorem abbreviate_long (limit : Nat) (text : List Char) (long : limit < text.length) :
    abbreviate limit text = text.take limit ++ ['.', '.', '.'] := by
  have present : text[limit]? = some text[limit] := List.getElem?_eq_getElem long
  have slice := Utf8.slice_first (text.take limit) (text.drop limit)
  rw [List.take_append_drop] at slice
  simp only [abbreviate, Utf8.positions_at, present, Option.map_some, Nat.zero_add, slice]

theorem read_boolean_chars (v : Bool) : readBoolean (booleanChars v) = some v := by
  cases v <;> decide

theorem float_format_readable : floatFormat.Readable where
  mark := .inr rfl
  unsigned := rfl
  infinity := by decide
  notANumber := by decide

theorem text_typed_back (text : List Char) (short : text.length ≤ displayLimit) :
    ofLiteral Kind.text.literalName (holding (.text (Utf8.encode text))).valueChars =
      .ok (holding (.text (Utf8.encode text))) := by
  have shown : (holding (.text (Utf8.encode text))).valueChars = text := by
    simp only [valueChars, Cell.text, bytes]
    rw [Utf8.decode_encode, abbreviate_short _ _ short]
  rw [shown]
  rfl

theorem integer_typed_back (v : Int64) :
    ofLiteral Kind.integer.literalName (holding (.integer v)).valueChars = .ok (holding (.integer v)) := by
  rw [ofLiteral, if_neg (by decide), if_neg (by decide), if_pos (by decide), valueChars, read_int64_chars]
  simp only [Int64.ofInt_toInt]

theorem float_typed_back (v : Double) :
    ofLiteral Kind.float.literalName (holding (.float v)).valueChars =
      .ok (holding (.float (if v.isNaN then Double.notANumber else v))) := by
  rw [ofLiteral, if_neg (by decide), if_neg (by decide), if_neg (by decide), if_pos (by decide), valueChars,
    read_float_chars _ float_format_readable]

theorem boolean_typed_back (v : Bool) :
    ofLiteral Kind.boolean.literalName (holding (.boolean v)).valueChars = .ok (holding (.boolean v)) := by
  rw [ofLiteral, if_neg (by decide), if_neg (by decide), if_neg (by decide), if_neg (by decide),
    if_pos (by decide), valueChars, read_boolean_chars]

theorem timestamp_typed_back (millis : Int64) :
    ofLiteral Kind.timestamp.literalName (holding (.timestamp millis)).valueChars =
      .ok (holding (.timestamp millis)) := by
  rw [ofLiteral, if_neg (by decide), if_neg (by decide), if_neg (by decide), if_neg (by decide),
    if_neg (by decide), if_pos (by decide), readTimestamp, valueChars, read_int64_chars]
  simp only [Int64.ofInt_toInt]

theorem typed_back (v : Value) (whole : v.ShownWhole) :
    ∃ c, ofLiteral v.kind.literalName (holding v).valueChars = .ok c ∧
      (c = holding v ∨ (c.isNaN = true ∧ (holding v).isNaN = true)) := by
  cases v with
  | text shown =>
    obtain ⟨text, rfl, short⟩ := whole
    exact ⟨_, text_typed_back text short, .inl rfl⟩
  | integer v => exact ⟨_, integer_typed_back v, .inl rfl⟩
  | timestamp millis => exact ⟨_, timestamp_typed_back millis, .inl rfl⟩
  | boolean v => exact ⟨_, boolean_typed_back v, .inl rfl⟩
  | float v =>
    refine ⟨_, float_typed_back v, ?_⟩
    by_cases nan : v.isNaN = true
    · rw [if_pos nan]
      exact .inr ⟨by decide, nan⟩
    · rw [if_neg nan]
      exact .inl rfl

theorem chars_of_display (a b : Cell) (alike : a.display = b.display) : a.valueChars = b.valueChars := by
  have chars := congrArg String.toList alike
  simp only [display, String.toList_append, String.toList_ofList] at chars
  exact List.append_cancel_left (List.append_cancel_right chars)

theorem same_of_display (v w : Value) (kinds : v.kind = w.kind) (number : v.kind ≠ .text)
    (alike : (holding v).display = (holding w).display) : (holding v).same (holding w) = true := by
  have whole : ∀ u : Value, u.kind ≠ .text → u.ShownWhole := by
    intro u other
    cases u with
    | text bytes => exact absurd rfl other
    | _ => trivial
  obtain ⟨c, first, left⟩ := typed_back v (whole v number)
  obtain ⟨d, second, right⟩ := typed_back w (whole w (kinds ▸ number))
  rw [chars_of_display _ _ alike, kinds, second] at first
  cases first
  exact same_equivalence.trans (same_equivalence.symm ((same_iff _ _).mpr left)) ((same_iff _ _).mpr right)

theorem display_typed_back :
    (∀ v : Value, v.ShownWhole →
      ∃ shown, (holding v).display = "Cell\x7b " ++ String.ofList shown ++ " \x7d" ∧
        ∃ c, ofLiteral v.kind.literalName shown = .ok c ∧ c.same (holding v) = true ∧
          ((holding v).isNaN = false → c = holding v)) ∧
    (∀ a b : Cell, a.kind = b.kind → a.kind ≠ some .text → a.display = b.display → a.same b = true) := by
  constructor
  · intro v whole
    obtain ⟨c, read, back⟩ := typed_back v whole
    refine ⟨(holding v).valueChars, rfl, c, read, (same_iff _ _).mpr back, ?_⟩
    intro number
    rcases back with equal | ⟨_, nan⟩
    · exact equal
    · simp [nan] at number
  · intro a b kinds other alike
    cases a with
    | null =>
      cases b with
      | null => rfl
      | holding w => cases kinds
    | holding v =>
      cases b with
      | null => cases kinds
      | holding w =>
        exact same_of_display v w (Option.some.inj kinds) (fun text => other (congrArg some text)) alike

theorem least_negative_typed_back :
    (holding (.float ⟨0x8000000000000001⟩)).display = "Cell\x7b -5.0E-324 \x7d" ∧
    (∃ shown, (holding (.float ⟨0x8000000000000001⟩)).display =
        "Cell\x7b " ++ String.ofList shown ++ " \x7d" ∧
      ∃ c, ofLiteral Kind.float.literalName shown = .ok c ∧ c = holding (.float ⟨0x8000000000000001⟩)) ∧
    (holding (.float ⟨0x7ff8000000000000⟩)).same (holding (.float ⟨0xfff8000000000001⟩)) = true := by
  obtain ⟨shown, display, c, read, _, equal⟩ :=
    display_typed_back.1 (.float ⟨0x8000000000000001⟩) trivial
  refine ⟨by decide +kernel, ⟨shown, display, c, read, equal (by decide)⟩, ?_⟩
  exact display_typed_back.2 _ _ rfl (by decide) (by decide)

end Cell

end SeriesCell
