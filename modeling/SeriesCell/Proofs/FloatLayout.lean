import SeriesCell.Double.Exponential
import SeriesCell.Proofs.FloatText
import SeriesCell.Proofs.Magnitudes

/- The layout of displayed doubles. In the plain range there are digits on both sides of a point and no
   exponent, and outside it there is one digit before the point and an exponent that tells on which side
   of the range the number lies. No side has a zero more than it needs. -/
namespace SeriesCell

structure WholeDigits (text : List Char) : Prop where
  nonempty : text ≠ []
  digits : ∀ c ∈ text, c.isDigit = true
  leading : text = ['0'] ∨ text.head? ≠ some '0'

structure FractionDigits (text : List Char) : Prop where
  nonempty : text ≠ []
  digits : ∀ c ∈ text, c.isDigit = true
  trailing : text = ['0'] ∨ text.getLast? ≠ some '0'

def withMinus (negative : Bool) (text : List Char) : List Char := if negative then '-' :: text else text

def PositionalLayout (text : List Char) : Prop :=
  ∃ whole fraction, text = whole ++ '.' :: fraction ∧ WholeDigits whole ∧ FractionDigits fraction

def ScientificLayout (mark : Char) (exponent : Int) (text : List Char) : Prop :=
  ∃ first fraction power, text = first :: '.' :: (fraction ++ mark :: withMinus (decide (exponent < 0)) power) ∧
    first.isDigit = true ∧ first ≠ '0' ∧ FractionDigits fraction ∧ WholeDigits power ∧
    Nat.ofDigitChars 10 power 0 = exponent.natAbs

theorem written_whole (n : Nat) : WholeDigits (Nat.toDigits 10 n) where
  nonempty := Nat.toDigits_ne_nil
  digits := is_digit_of_written n
  leading := by
    by_cases zero : n = 0
    · exact .inl (by rw [zero, Nat.toDigits_zero])
    · exact .inr (leading_digit n zero)

namespace Decimal

theorem significant_last (d : Decimal) : d.significant.getLast? ≠ some '0' := by
  have kept := List.head?_dropWhile_not (· == '0') (Nat.toDigits 10 d.digits).reverse
  rw [significant, List.getLast?_reverse]
  intro zero
  rw [zero] at kept
  cases kept

theorem significant_head (d : Decimal) (positive : 0 < d.digits) : d.significant.head? ≠ some '0' := by
  obtain ⟨count, trimmed⟩ := d.trailing_zeros
  have leading := leading_digit d.digits positive.ne'
  rwa [trimmed, List.head?_append_of_ne_nil _ (d.significant_ne_nil positive)] at leading

theorem or_zero_whole (digits : List Char) (all : ∀ c ∈ digits, c.isDigit = true)
    (leading : digits.head? ≠ some '0') : WholeDigits (orZero digits) where
  nonempty := or_zero_ne_nil digits
  digits := or_zero_digits digits all
  leading := by
    cases digits with
    | nil => exact .inl rfl
    | cons c rest => exact .inr leading

theorem or_zero_fraction (digits : List Char) (all : ∀ c ∈ digits, c.isDigit = true)
    (trailing : digits.getLast? ≠ some '0') : FractionDigits (orZero digits) where
  nonempty := or_zero_ne_nil digits
  digits := or_zero_digits digits all
  trailing := by
    cases digits with
    | nil => exact .inl rfl
    | cons c rest => exact .inr trailing

theorem significant_tail_last (d : Decimal) (count : Nat) :
    (d.significant.drop count).getLast? ≠ some '0' := by
  rw [List.getLast?_drop]
  by_cases short : d.significant.length ≤ count
  · simp [short]
  · rw [if_neg short]
    exact d.significant_last

theorem positional_whole_head (d : Decimal) (positive : 0 < d.digits) :
    d.positionalWhole.head? ≠ some '0' := by
  have leading := d.significant_head positive
  obtain ⟨first, others, digits⟩ := List.exists_cons_of_ne_nil (d.significant_ne_nil positive)
  rw [digits] at leading
  rw [positionalWhole, digits]
  cases d.pointPosition.toNat with
  | zero => simp
  | succ before => exact leading

-- Zeros stand before the digits only if the point is before all of them, so the last digit stays last.
theorem positional_fraction_last (d : Decimal) (positive : 0 < d.digits) :
    d.positionalFraction.getLast? ≠ some '0' := by
  have nonempty := d.significant_ne_nil positive
  rw [positionalFraction]
  rcases Int.lt_or_le d.pointPosition 0 with before | inside
  · have whole : d.pointPosition.toNat = 0 := by omega
    rw [whole, List.drop_zero, List.getLast?_append_of_ne_nil _ nonempty]
    exact d.significant_last
  · have unfilled : (-d.pointPosition).toNat = 0 := by omega
    rw [unfilled, List.replicate_zero, List.nil_append]
    exact d.significant_tail_last _

theorem positional_layout (d : Decimal) (positive : 0 < d.digits) : PositionalLayout d.positional := by
  refine ⟨orZero d.positionalWhole, orZero d.positionalFraction, rfl, ?_, ?_⟩
  · exact or_zero_whole _ d.positional_whole_digits (d.positional_whole_head positive)
  · exact or_zero_fraction _ d.positional_fraction_digits (d.positional_fraction_last positive)

theorem integer_chars_layout (v : Int) :
    ∃ power, integerChars v = withMinus (decide (v < 0)) power ∧ WholeDigits power ∧
      Nat.ofDigitChars 10 power 0 = v.natAbs := by
  refine ⟨Nat.toDigits 10 v.natAbs, ?_, written_whole v.natAbs, Nat.ofDigitChars_ten_toDigits⟩
  simp only [integerChars, withMinus, decide_eq_true_eq]

theorem significant_cons (d : Decimal) (positive : 0 < d.digits) :
    ∃ first others, d.significant = first :: others ∧ first.isDigit = true ∧ first ≠ '0' ∧
      (∀ c ∈ others, c.isDigit = true) ∧ others.getLast? ≠ some '0' := by
  obtain ⟨first, others, digits⟩ := List.exists_cons_of_ne_nil (d.significant_ne_nil positive)
  have all := d.significant_digits
  have leading := d.significant_head positive
  have last := d.significant_tail_last 1
  rw [digits] at all leading last
  obtain ⟨digit, following⟩ := List.forall_mem_cons.mp all
  exact ⟨first, others, digits, digit, fun zero => leading (congrArg some zero), following, last⟩

theorem scientific_layout (d : Decimal) (mark : Char) (positive : 0 < d.digits) :
    ScientificLayout mark (d.pointPosition - 1) (d.scientific mark) := by
  obtain ⟨first, others, digits, digit, nonzero, following, last⟩ := d.significant_cons positive
  obtain ⟨power, exponent, whole, value⟩ := integer_chars_layout (d.pointPosition - 1)
  refine ⟨first, orZero others, power, ?_, digit, nonzero, or_zero_fraction others following last, whole,
    value⟩
  rw [← exponent, scientific, digits]
  rfl

end Decimal

theorem split_once_append (mark : Char) (before after : List Char) (absent : mark ∉ before) :
    splitOnce mark (before ++ mark :: after) = some (before, after) := by
  induction before with
  | nil => simp [splitOnce]
  | cons c rest ih =>
    have different : c ≠ mark := Ne.symm (List.ne_of_not_mem_cons absent)
    rw [List.cons_append, splitOnce, if_neg different, ih (List.not_mem_of_not_mem_cons absent)]
    rfl

theorem remark_cut (mark : Char) (mantissa power : List Char) (absent : 'e' ∉ mantissa) :
    remark mark (mantissa ++ 'e' :: power) =
      if '.' ∈ mantissa then mantissa ++ mark :: power else mantissa ++ '.' :: '0' :: mark :: power := by
  rw [remark, split_once_append 'e' mantissa power absent]
  simp only [Option.getD_some, List.contains_iff_mem]

theorem marks_not_digits (digits : List Char) (all : ∀ c ∈ digits, c.isDigit = true) :
    'e' ∉ digits ∧ '.' ∉ digits := by
  constructor <;> intro member <;> exact absurd (all _ member) (by decide)

-- The exponential form leaves out the point exactly where a single digit is followed by a zero.
theorem exponential_parts (d : Decimal) (mark : Char) (positive : 0 < d.digits) :
    ∃ mantissa, d.exponential = mantissa ++ 'e' :: integerChars (d.pointPosition - 1) ∧ 'e' ∉ mantissa ∧
      d.scientific mark = (if '.' ∈ mantissa then mantissa else mantissa ++ ['.', '0']) ++
        mark :: integerChars (d.pointPosition - 1) := by
  obtain ⟨first, others, digits, digit, _, following, _⟩ := d.significant_cons positive
  obtain ⟨unmarked, pointless⟩ :=
    marks_not_digits (first :: others) (List.forall_mem_cons.mpr ⟨digit, following⟩)
  rw [Decimal.exponential, Decimal.scientific, digits]
  cases others with
  | nil => exact ⟨[first], rfl, unmarked, by rw [if_neg pointless]; rfl⟩
  | cons second rest =>
    refine ⟨first :: '.' :: second :: rest, rfl, ?_, ?_⟩
    · simpa using unmarked
    · rw [if_pos (by simp)]
      rfl

theorem mem_with_minus (negative : Bool) (text : List Char) (c : Char) (other : c ≠ '-') :
    c ∈ withMinus negative text ↔ c ∈ text := by
  cases negative <;> simp [withMinus, other]

theorem with_minus_append (negative : Bool) (text rest : List Char) :
    withMinus negative (text ++ rest) = withMinus negative text ++ rest := by
  cases negative <;> rfl

theorem remark_exponential (d : Decimal) (mark : Char) (negative : Bool) (positive : 0 < d.digits) :
    (∃ mantissa power, splitOnce 'e' (withMinus negative d.exponential) = some (mantissa, power)) ∧
    remark mark (withMinus negative d.exponential) = withMinus negative (d.scientific mark) := by
  obtain ⟨mantissa, form, absent, scientific⟩ := exponential_parts d mark positive
  have unmarked : 'e' ∉ withMinus negative mantissa := by
    rwa [mem_with_minus negative mantissa 'e' (by decide)]
  rw [form, with_minus_append]
  refine ⟨⟨_, _, split_once_append 'e' _ _ unmarked⟩, ?_⟩
  have point := mem_with_minus negative mantissa '.' (by decide)
  rw [remark_cut mark _ _ unmarked, scientific, with_minus_append]
  by_cases pointed : '.' ∈ mantissa
  · rw [if_pos pointed, if_pos (point.mpr pointed)]
  · rw [if_neg pointed, if_neg (mt point.mp pointed), with_minus_append, List.append_assoc]
    rfl

namespace Double

def negated (v : Double) : Double := ofParts (!v.isNegative) v.magnitude

theorem magnitude_lt (v : Double) : v.magnitude < signWeight := Nat.mod_lt _ (by decide)

theorem parts_of_parts (negative : Bool) (magnitude : Nat) (small : magnitude < signWeight) :
    (ofParts negative magnitude).isNegative = negative ∧ (ofParts negative magnitude).magnitude = magnitude := by
  rw [signWeight] at small
  cases negative with
  | false =>
    have bits : (ofParts false magnitude).bits.toNat = magnitude :=
      UInt64.toNat_ofNat_of_lt' (Nat.lt_trans small (by decide))
    rw [isNegative, Double.magnitude, bits, signWeight]
    exact ⟨decide_eq_false (Nat.not_le.mpr small), Nat.mod_eq_of_lt small⟩
  | true =>
    have bits : (ofParts true magnitude).bits.toNat = signWeight + magnitude :=
      UInt64.toNat_ofNat_of_lt' (by
        rw [if_pos rfl, signWeight]
        exact Nat.add_lt_add_left small 0x8000000000000000)
    rw [isNegative, Double.magnitude, bits]
    exact ⟨decide_eq_true (Nat.le_add_right _ _), by rw [Nat.add_mod_left]; exact Nat.mod_eq_of_lt small⟩

theorem finite_iff (v : Double) :
    v.isNaN = false ∧ v.isInfinite = false ↔ v.magnitude < infinityBits := by
  simp only [isNaN, isInfinite, decide_eq_false_iff_not, beq_eq_false_iff_ne]
  omega

end Double

theorem unsigned_plain (v : Double) (finite : v.magnitude < Double.infinityBits) (plain : v.InPlainRange) :
    PositionalLayout (Cell.floatFormat.unsigned v.magnitude) := by
  rw [FloatFormat.unsigned, if_neg finite.ne, if_pos ((is_plain_iff v).mpr plain)]
  by_cases zero : v.magnitude = 0
  · rw [zero]
    have single : WholeDigits ['0'] := written_whole 0
    exact ⟨['0'], ['0'], rfl, single, single.nonempty, single.digits, .inl rfl⟩
  · exact Decimal.positional_layout _ (Double.shortest_digits_pos _ (Nat.pos_of_ne_zero zero) finite)

theorem unsigned_scientific (v : Double) (finite : v.magnitude < Double.infinityBits)
    (outside : ¬ v.InPlainRange) :
    Cell.floatFormat.unsigned v.magnitude = (Double.shortest v.magnitude).scientific 'E' := by
  rw [FloatFormat.unsigned, if_neg finite.ne, if_neg (mt (is_plain_iff v).mp outside)]
  rfl

theorem float_chars (v : Double) (number : v.isNaN = false) :
    (Cell.holding (.float v)).valueChars =
      withMinus v.isNegative (Cell.floatFormat.unsigned v.magnitude) := by
  rw [Cell.valueChars, FloatFormat.write, if_neg (by simp [number])]
  rfl

theorem negated_chars (v : Double) (number : v.isNaN = false) :
    (Cell.holding (.float v.negated)).valueChars =
      withMinus (!v.isNegative) (Cell.floatFormat.unsigned v.magnitude) := by
  obtain ⟨sign, magnitude⟩ := Double.parts_of_parts (!v.isNegative) v.magnitude v.magnitude_lt
  have still : v.negated.isNaN = false := by
    rw [Double.isNaN, Double.negated, magnitude]
    exact number
  rw [float_chars v.negated still, Double.negated, sign, magnitude]

theorem float_display_layout :
    (∀ v : Double, v.isNaN = false → v.isInfinite = false → ∃ unsigned,
      (Cell.holding (.float v)).display =
        "Cell\x7b " ++ String.ofList (withMinus v.isNegative unsigned) ++ " \x7d" ∧
      (Cell.holding (.float v.negated)).display =
        "Cell\x7b " ++ String.ofList (withMinus (!v.isNegative) unsigned) ++ " \x7d" ∧
      (v.InPlainRange → PositionalLayout unsigned) ∧
      (¬ v.InPlainRange → ∃ exponent, ScientificLayout 'E' exponent unsigned ∧
        (Double.units v.magnitude < Double.units (Double.nearest ⟨1, -3⟩) → exponent ≤ -4) ∧
        (Double.units (Double.nearest ⟨1, 7⟩) ≤ Double.units v.magnitude → 7 ≤ exponent) ∧
        (∃ mantissa power, splitOnce 'e' v.exponentialChars = some (mantissa, power)) ∧
        remark 'E' v.exponentialChars = withMinus v.isNegative unsigned)) ∧
    (∀ v : Double, v.isNaN = true → (Cell.holding (.float v)).display = "Cell\x7b NaN \x7d") ∧
    ∀ v : Double, v.isInfinite = true → (Cell.holding (.float v)).display =
      if v.isNegative then "Cell\x7b -Infinity \x7d" else "Cell\x7b Infinity \x7d" := by
  refine ⟨?_, ?_, ?_⟩
  · intro v number bounded
    have finite := v.finite_iff.mp ⟨number, bounded⟩
    refine ⟨Cell.floatFormat.unsigned v.magnitude, by rw [Cell.display, float_chars v number],
      by rw [Cell.display, negated_chars v number], unsigned_plain v finite, ?_⟩
    intro outside
    have positive : 0 < v.magnitude := by
      rw [Nat.pos_iff_ne_zero]
      intro zero
      exact outside (.inl (by rw [zero]; rfl))
    have digits := Double.shortest_digits_pos v.magnitude positive finite
    obtain ⟨cut, marked⟩ := remark_exponential _ 'E' v.isNegative digits
    rw [unsigned_scientific v finite outside]
    refine ⟨_, Decimal.scientific_layout _ 'E' digits, ?_, ?_, cut, marked⟩
    · intro small
      exact point_below_plain _ positive (units_strict_mono.lt_iff_lt.mp small)
    · intro large
      exact point_above_plain _ positive finite (units_strict_mono.le_iff_le.mp large)
  · intro v nan
    rw [Cell.display, Cell.valueChars, FloatFormat.write, if_pos nan]
    rfl
  · intro v infinite
    have magnitude : v.magnitude = Double.infinityBits := beq_iff_eq.mp infinite
    have number : v.isNaN = false := by simp [Double.isNaN, magnitude]
    rw [Cell.display, float_chars v number, magnitude]
    cases v.isNegative <;> rfl

theorem below_range_and_zero :
    (Cell.holding (.float ⟨0x3f50624dd2f1a9fb⟩)).display = "Cell\x7b 9.999999999999998E-4 \x7d" ∧
    (∃ unsigned exponent, (Cell.holding (.float ⟨0x3f50624dd2f1a9fb⟩)).display =
        "Cell\x7b " ++ String.ofList unsigned ++ " \x7d" ∧
      ScientificLayout 'E' exponent unsigned ∧ exponent ≤ -4) ∧
    (Cell.holding (.float ⟨0x8000000000000000⟩)).display = "Cell\x7b -0.0 \x7d" ∧
    ∃ unsigned, (Cell.holding (.float ⟨0x8000000000000000⟩)).display =
        "Cell\x7b " ++ String.ofList ('-' :: unsigned) ++ " \x7d" ∧
      (Cell.holding (.float ⟨0⟩)).display = "Cell\x7b " ++ String.ofList unsigned ++ " \x7d" ∧
      PositionalLayout unsigned := by
  obtain ⟨finite, _⟩ := float_display_layout
  obtain ⟨below, shown, _, _, outside⟩ := finite ⟨0x3f50624dd2f1a9fb⟩ (by decide) (by decide)
  obtain ⟨zero, negative, positive, inside, _⟩ := finite ⟨0x8000000000000000⟩ (by decide) (by decide)
  have unplain : ¬ Double.InPlainRange ⟨0x3f50624dd2f1a9fb⟩ :=
    mt (is_plain_iff ⟨0x3f50624dd2f1a9fb⟩).mpr (by decide)
  have less : Double.units 0x3f50624dd2f1a9fb < Double.units (Double.nearest ⟨1, -3⟩) := by
    rw [plain_from_nearest, units_strict_mono.lt_iff_lt]
    decide
  obtain ⟨exponent, layout, low, _⟩ := outside unplain
  exact ⟨by decide +kernel, ⟨below, exponent, shown, layout, low less⟩, by decide +kernel,
    zero, negative, positive, inside (.inl rfl)⟩

end SeriesCell
