import SeriesCell.Proofs.RoundTrip

/- When cells are the same: by comparison, by hash, by bytes and by message. All notions agree but for
   doubles, where one NaN is as good as another to a comparison and a hash, but not to the bytes, and
   messages compare doubles as numbers. -/
namespace SeriesCell

def Cell.isNaN : Cell → Bool
  | .holding (.float v) => v.isNaN
  | _ => false

def Cell.isZeroFloat : Cell → Bool
  | .holding (.float v) => v.isZero
  | _ => false

theorem bits_iff (v w : Double) : v.bits = w.bits ↔ v = w := by
  cases v
  cases w
  simp

theorem nan_bits_differ (v w : Double) (nan : v.isNaN = true) (number : ¬ w.isNaN = true) :
    v.bits ≠ w.bits := by
  intro same
  apply number
  rwa [← (bits_iff v w).mp same]

theorem folded_bits_iff (v w : Double) :
    v.foldedBits = w.foldedBits ↔ v = w ∨ (v.isNaN = true ∧ w.isNaN = true) := by
  have canonical : Double.notANumber.isNaN = true := by decide
  rw [← bits_iff]
  by_cases left : v.isNaN = true
  · by_cases right : w.isNaN = true
    · simp [Double.foldedBits, left, right]
    · have distinct := nan_bits_differ .notANumber w canonical right
      have different := nan_bits_differ v w left right
      simp [Double.foldedBits, left, right, distinct, different]
  · by_cases right : w.isNaN = true
    · have distinct := (nan_bits_differ .notANumber v canonical left).symm
      have different := (nan_bits_differ w v right left).symm
      simp [Double.foldedBits, left, right, distinct, different]
    · simp [Double.foldedBits, left, right]

theorem same_iff (a b : Cell) : a.same b = true ↔ a = b ∨ (a.isNaN = true ∧ b.isNaN = true) := by
  cases a with
  | null => cases b <;> simp [Cell.same, Cell.isNaN]
  | holding v =>
    cases b with
    | null => simp [Cell.same, Cell.isNaN]
    | holding w => cases v <;> cases w <;> simp [Cell.same, Value.same, Cell.isNaN, folded_bits_iff]

theorem same_equivalence : Equivalence (fun a b : Cell => a.same b = true) where
  refl a := (same_iff a a).mpr (.inl rfl)
  symm {a b} same := by
    rw [same_iff] at same ⊢
    rcases same with rfl | ⟨left, right⟩
    · exact .inl rfl
    · exact .inr ⟨right, left⟩
  trans {a b c} first second := by
    rw [same_iff] at first second ⊢
    rcases first with rfl | ⟨left, middle⟩
    · exact second
    · rcases second with rfl | ⟨_, right⟩
      · exact .inr ⟨left, middle⟩
      · exact .inr ⟨left, right⟩

theorem nan_cell (c : Cell) (nan : c.isNaN = true) :
    ∃ v : Double, c = .holding (.float v) ∧ v.isNaN = true := by
  cases c with
  | null => simp [Cell.isNaN] at nan
  | holding v =>
    cases v with
    | float v => exact ⟨v, rfl, nan⟩
    | _ => simp [Cell.isNaN] at nan

theorem kind_of_same (a b : Cell) (same : a.same b = true) : a.kind = b.kind := by
  rcases (same_iff a b).mp same with rfl | ⟨left, right⟩
  · rfl
  · obtain ⟨v, rfl, _⟩ := nan_cell a left
    obtain ⟨w, rfl, _⟩ := nan_cell b right
    rfl

theorem display_of_same (a b : Cell) (same : a.same b = true) : a.display = b.display := by
  rcases (same_iff a b).mp same with rfl | ⟨left, right⟩
  · rfl
  · obtain ⟨v, rfl, first⟩ := nan_cell a left
    obtain ⟨w, rfl, second⟩ := nan_cell b right
    simp only [Cell.display, Cell.valueChars, FloatFormat.write, if_pos first, if_pos second]

theorem hash_feed_of_same (a b : Cell) (same : a.same b = true) : a.hashFeed = b.hashFeed := by
  rcases (same_iff a b).mp same with rfl | ⟨left, right⟩
  · rfl
  · obtain ⟨v, rfl, first⟩ := nan_cell a left
    obtain ⟨w, rfl, second⟩ := nan_cell b right
    have folded := (folded_bits_iff v w).mpr (.inr ⟨first, second⟩)
    simp only [Cell.hashFeed, Cell.kindNumber, Value.hashFeed, folded]

theorem int64_of_word (v w : Int64) (words : v.toUInt64.toNat = w.toUInt64.toNat) : v = w := by
  have same := congrArg UInt64.toInt64 (UInt64.toNat_inj.mp words)
  rwa [Int64.toInt64_toUInt64, Int64.toInt64_toUInt64] at same

theorem same_of_value_feed (v w : Value) (alike : v.kind = w.kind) (feeds : v.hashFeed = w.hashFeed) :
    v.same w = true := by
  cases v with
  | text bytes =>
    cases w with
    | text other =>
      have bytesEq : bytes = other :=
        (List.map_inj_right fun _ _ same => UInt8.toNat_inj.mp same).mp (List.cons.inj feeds).2
      simp [Value.same, bytesEq]
    | _ => simp [Value.kind] at alike
  | integer v =>
    cases w with
    | integer w => simp [Value.same, int64_of_word v w (List.cons.inj feeds).1]
    | _ => simp [Value.kind] at alike
  | timestamp millis =>
    cases w with
    | timestamp other => simp [Value.same, int64_of_word millis other (List.cons.inj feeds).1]
    | _ => simp [Value.kind] at alike
  | boolean v =>
    cases w with
    | boolean w => cases v <;> cases w <;> simp_all [Value.hashFeed, Value.same]
    | _ => simp [Value.kind] at alike
  | float v =>
    cases w with
    | float w => simp [Value.same, UInt64.toNat_inj.mp (List.cons.inj feeds).1]
    | _ => simp [Value.kind] at alike

theorem kind_of_number (a b : Cell) (numbers : a.kindNumber = b.kindNumber) : a.kind = b.kind := by
  cases a with
  | null =>
    cases b with
    | null => rfl
    | holding w => cases w <;> cases numbers
  | holding v =>
    cases b with
    | null => cases v <;> cases numbers
    | holding w => cases v <;> cases w <;> cases numbers <;> rfl

theorem kind_of_hash_feed (a b : Cell) (feeds : a.hashFeed = b.hashFeed) : a.kind = b.kind := by
  have first : ∀ c : Cell, c.hashFeed.head? = some c.kindNumber := by
    intro c
    cases c <;> rfl
  have heads := congrArg List.head? feeds
  rw [first a, first b] at heads
  exact kind_of_number a b (Option.some.inj heads)

theorem hash_feed_iff (a b : Cell) : a.hashFeed = b.hashFeed ↔ a.same b = true := by
  refine ⟨?_, hash_feed_of_same a b⟩
  intro feeds
  have alike := kind_of_hash_feed a b feeds
  cases a with
  | null =>
    cases b with
    | null => rfl
    | holding w => simp [Cell.kind] at alike
  | holding v =>
    cases b with
    | null => simp [Cell.kind] at alike
    | holding w => exact same_of_value_feed v w (Option.some.inj alike) (List.cons.inj feeds).2

theorem zero_not_nan (v : Double) (zero : v.isZero = true) : v.isNaN = false := by
  simp only [Double.isZero, beq_iff_eq] at zero
  simp [Double.isNaN, zero]

theorem equal_as_numbers_iff (v w : Double) :
    v.equalAsNumbers w = true ↔
      (v = w ∧ v.isNaN = false) ∨ (v.isZero = true ∧ w.isZero = true) := by
  simp only [Double.equalAsNumbers, Bool.and_eq_true, Bool.not_eq_true', Bool.or_eq_true, beq_iff_eq,
    bits_iff]
  constructor
  · rintro ⟨⟨number, _⟩, same | zeros⟩
    · exact .inl ⟨same, number⟩
    · exact .inr zeros
  · rintro (⟨rfl, number⟩ | ⟨left, right⟩)
    · exact ⟨⟨number, number⟩, .inl rfl⟩
    · exact ⟨⟨zero_not_nan v left, zero_not_nan w right⟩, .inr ⟨left, right⟩⟩

theorem same_number_iff (a b : Cell) :
    (a.same b = true ∧ ¬ (a.isNaN = true ∧ b.isNaN = true)) ↔ (a = b ∧ a.isNaN = false) := by
  rw [same_iff]
  constructor
  · rintro ⟨rfl | both, number⟩
    · exact ⟨rfl, Bool.eq_false_iff.mpr fun nan => number ⟨nan, nan⟩⟩
    · exact absurd both number
  · rintro ⟨rfl, number⟩
    exact ⟨.inl rfl, fun both => absurd both.1 (Bool.eq_false_iff.mp number)⟩

theorem message_equal_iff (a b : Cell) :
    a.message.equalAsNumbers b.message = true ↔
      (a.same b = true ∧ ¬ (a.isNaN = true ∧ b.isNaN = true)) ∨
      (a.isZeroFloat = true ∧ b.isZeroFloat = true) := by
  rw [same_number_iff]
  cases a with
  | null =>
    cases b with
    | null => decide
    | holding w =>
      cases w <;> simp [Cell.message, Message.empty, Message.put, Message.equalAsNumbers,
        Message.floatsEqual, Cell.isZeroFloat]
  | holding v =>
    cases b with
    | null =>
      cases v <;> simp [Cell.message, Message.empty, Message.put, Message.equalAsNumbers,
        Message.floatsEqual, Cell.isZeroFloat]
    | holding w =>
      cases v <;> cases w <;> simp [Cell.message, Message.empty, Message.put, Message.equalAsNumbers,
        Message.floatsEqual, Cell.isNaN, Cell.isZeroFloat, equal_as_numbers_iff]

theorem eq_of_encode (a b : Cell) (storable : a.Storable) (other : b.Storable)
    (bytes : a.encode.value = b.encode.value) : a = b := by
  have left := decode_nullable_encode a storable
  rw [bytes, decode_nullable_encode b other] at left
  exact (Except.ok.inj left).symm

theorem encode_of_same (a b : Cell) (same : a.same b = true)
    (number : ¬ (a.isNaN = true ∧ b.isNaN = true)) : a.encode.value = b.encode.value := by
  rw [((same_number_iff a b).mp ⟨same, number⟩).1]

theorem sameness_notions_agree :
    Equivalence (fun a b : Cell => a.same b = true) ∧
    ∀ a b : Cell, a.Storable → b.Storable →
      (a.hashFeed = b.hashFeed ↔ a.same b = true) ∧
      (a.encode.value = b.encode.value → a.same b = true) ∧
      (a.same b = true → ¬ (a.isNaN = true ∧ b.isNaN = true) → a.encode.value = b.encode.value) ∧
      (a.message.equalAsNumbers b.message = true ↔
        (a.same b = true ∧ ¬ (a.isNaN = true ∧ b.isNaN = true)) ∨
        (a.isZeroFloat = true ∧ b.isZeroFloat = true)) ∧
      (a.same b = true → a.kind = b.kind ∧ a.display = b.display) ∧
      (a.kind ≠ b.kind →
        a.same b = false ∧ a.encode.value ≠ b.encode.value ∧ a.hashFeed ≠ b.hashFeed) := by
  refine ⟨same_equivalence, ?_⟩
  intro a b storable other
  have bytes : a.encode.value = b.encode.value → a.same b = true := fun written =>
    (same_iff a b).mpr (.inl (eq_of_encode a b storable other written))
  refine ⟨hash_feed_iff a b, bytes, encode_of_same a b, message_equal_iff a b, ?_, ?_⟩
  · intro same
    exact ⟨kind_of_same a b same, display_of_same a b same⟩
  · intro different
    have apart : ¬ a.same b = true := fun same => different (kind_of_same a b same)
    exact ⟨Bool.eq_false_iff.mpr apart, fun written => apart (bytes written),
      fun feeds => apart ((hash_feed_iff a b).mp feeds)⟩

theorem nan_sameness :
    (Cell.holding (.float ⟨0x7ff8000000000000⟩)).Storable ∧
    (Cell.holding (.float ⟨0xfff0000000000001⟩)).Storable ∧
    (Cell.holding (.float ⟨0x7ff8000000000000⟩)).hashFeed =
      (Cell.holding (.float ⟨0xfff0000000000001⟩)).hashFeed ∧
    (Cell.holding (.float ⟨0x7ff8000000000000⟩)).message.equalAsNumbers
      (Cell.holding (.float ⟨0xfff0000000000001⟩)).message = false := by
  have agree := sameness_notions_agree.2 (.holding (.float ⟨0x7ff8000000000000⟩))
    (.holding (.float ⟨0xfff0000000000001⟩)) trivial trivial
  refine ⟨trivial, trivial, agree.1.mpr (by decide), ?_⟩
  rw [← Bool.not_eq_true, agree.2.2.2.1]
  decide

end SeriesCell
