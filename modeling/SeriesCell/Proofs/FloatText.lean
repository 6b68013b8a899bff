import SeriesCell.Double.Literal
import SeriesCell.Double.Layout
import SeriesCell.Proofs.Numerals
import SeriesCell.Proofs.Shortest

/- Doubles as text are read back bit for bit. Where the point stands and how many zeros surround the
   digits changes the text of a decimal but not its number, and the number alone decides what is read. -/
namespace SeriesCell

def written (digits : List Char) (point : Int) : ℚ :=
  Nat.ofDigitChars 10 digits 0 * 10 ^ (point - digits.length) * unitsInOne

theorem written_zeros_before (count : Nat) (digits : List Char) (point : Int) :
    written (List.replicate count '0' ++ digits) (point + count) = written digits point := by
  rw [written, written, Nat.ofDigitChars_append, Nat.ofDigitChars_replicate_zero, Nat.mul_zero,
    List.length_append, List.length_replicate, Nat.cast_add, Int.add_comm count, Int.add_sub_add_right]

theorem written_zeros_after (count : Nat) (digits : List Char) (point : Int) :
    written (digits ++ List.replicate count '0') point = written digits point := by
  have exponent : point - digits.length = point - (digits.length + count : Nat) + count := by omega
  rw [written, written, Nat.ofDigitChars_append, Nat.ofDigitChars_replicate_zero, List.length_append,
    List.length_replicate, exponent, zpow_add₀ (by norm_num), zpow_natCast, Nat.cast_mul, Nat.cast_pow,
    Nat.cast_ofNat]
  ring

namespace Decimal

theorem trailing_zeros (d : Decimal) :
    ∃ count, Nat.toDigits 10 d.digits = d.significant ++ List.replicate count '0' := by
  generalize digits : Nat.toDigits 10 d.digits = written
  have zeros : ∀ c ∈ (written.reverse.takeWhile (· == '0')).reverse, c = '0' := by
    intro c member
    exact beq_iff_eq.mp (List.all_eq_true.mp List.all_takeWhile c (List.mem_reverse.mp member))
  refine ⟨(written.reverse.takeWhile (· == '0')).reverse.length, ?_⟩
  rw [significant, digits, ← List.eq_replicate_of_mem zeros, ← List.reverse_append,
    List.takeWhile_append_dropWhile, List.reverse_reverse]

theorem significant_number (d : Decimal) : written d.significant d.pointPosition = d.inUnits := by
  obtain ⟨count, trimmed⟩ := d.trailing_zeros
  rw [← written_zeros_after count, ← trimmed, written, Nat.ofDigitChars_ten_toDigits, pointPosition,
    add_sub_cancel_left, inUnits]

theorem significant_digits (d : Decimal) (c : Char) (member : c ∈ d.significant) : c.isDigit = true := by
  obtain ⟨count, trimmed⟩ := d.trailing_zeros
  apply is_digit_of_written d.digits
  rw [trimmed]
  exact List.mem_append_left _ member

theorem significant_ne_nil (d : Decimal) (positive : 0 < d.digits) : d.significant ≠ [] := by
  intro empty
  obtain ⟨count, trimmed⟩ := d.trailing_zeros
  have value := Nat.ofDigitChars_ten_toDigits (n := d.digits)
  rw [trimmed, empty, List.nil_append, Nat.ofDigitChars_replicate_zero] at value
  omega

theorem filled_sides (whole fraction : List Char) (exponent : Int) :
    written (orZero whole ++ orZero fraction) ((orZero whole).length + exponent) =
      written (whole ++ fraction) (whole.length + exponent) := by
  have before : ∃ count, orZero whole = List.replicate count '0' ++ whole := by
    cases whole with
    | nil => exact ⟨1, rfl⟩
    | cons c rest => exact ⟨0, rfl⟩
  have after : ∃ count, orZero fraction = fraction ++ List.replicate count '0' := by
    cases fraction with
    | nil => exact ⟨1, rfl⟩
    | cons c rest => exact ⟨0, (List.append_nil _).symm⟩
  obtain ⟨left, front⟩ := before
  obtain ⟨right, back⟩ := after
  have point : ((List.replicate left '0' ++ whole).length : Int) + exponent =
      whole.length + exponent + left := by
    rw [List.length_append, List.length_replicate]
    omega
  rw [front, back, point, ← List.append_assoc, written_zeros_after, List.append_assoc,
    written_zeros_before]

def positionalWhole (d : Decimal) : List Char :=
  d.significant.take d.pointPosition.toNat ++
    List.replicate (d.pointPosition.toNat - d.significant.length) '0'

def positionalFraction (d : Decimal) : List Char :=
  List.replicate (-d.pointPosition).toNat '0' ++ d.significant.drop d.pointPosition.toNat

theorem positional_number (d : Decimal) :
    written (d.positionalWhole ++ d.positionalFraction) d.positionalWhole.length = d.inUnits := by
  rw [← significant_number, positionalWhole, positionalFraction]
  rcases Int.lt_or_le 0 d.pointPosition with inside | before
  · have unfilled : (-d.pointPosition).toNat = 0 := by omega
    rw [unfilled, List.replicate_zero, List.nil_append]
    rcases Nat.le_total d.pointPosition.toNat d.significant.length with short | long
    · have unpadded : d.pointPosition.toNat - d.significant.length = 0 := by omega
      have point : ((d.significant.take d.pointPosition.toNat).length : Int) = d.pointPosition := by
        rw [List.length_take]
        omega
      rw [unpadded, List.replicate_zero, List.append_nil, List.take_append_drop, point]
    · have point : ((d.significant.length + (d.pointPosition.toNat - d.significant.length) : Nat) : Int) =
          d.pointPosition := by omega
      rw [List.take_of_length_le long, List.drop_of_length_le long, List.append_nil, List.length_append,
        List.length_replicate, point, written_zeros_after]
  · have fractional : d.pointPosition.toNat = 0 := by omega
    have point : d.pointPosition + (-d.pointPosition).toNat = 0 := by omega
    have moved := written_zeros_before (-d.pointPosition).toNat d.significant d.pointPosition
    rw [point] at moved
    rwa [fractional, List.take_zero, List.drop_zero, Nat.zero_sub, List.replicate_zero, List.nil_append,
      List.nil_append]

theorem or_zero_digits (digits : List Char) (all : ∀ c ∈ digits, c.isDigit = true) :
    ∀ c ∈ orZero digits, c.isDigit = true := by
  cases digits with
  | nil =>
    intro c member
    rw [List.mem_singleton.mp member]
    decide
  | cons c rest => exact all

theorem positional_whole_digits (d : Decimal) : ∀ c ∈ d.positionalWhole, c.isDigit = true := by
  intro c member
  rcases List.mem_append.mp member with digit | zero
  · exact d.significant_digits c (List.mem_of_mem_take digit)
  · exact zeros_digits _ c zero

theorem positional_fraction_digits (d : Decimal) : ∀ c ∈ d.positionalFraction, c.isDigit = true := by
  intro c member
  rcases List.mem_append.mp member with zero | digit
  · exact zeros_digits _ c zero
  · exact d.significant_digits c (List.mem_of_mem_drop digit)

theorem or_zero_ne_nil (digits : List Char) : orZero digits ≠ [] := by
  cases digits <;> simp [orZero]

end Decimal

namespace FloatLiteral

theorem exponent_value_exact (digits : List Char) (total : Nat)
    (small : Nat.ofDigitChars 10 digits total < 65536) :
    digits.foldl (fun total c => if total < 65536 then total * 10 + digitValue c else total) total =
      Nat.ofDigitChars 10 digits total := by
  induction digits generalizing total with
  | nil => exact Nat.ofDigitChars_nil.symm
  | cons c rest ih =>
    have grows := digits_grow (c :: rest) total
    rw [Nat.ofDigitChars_cons] at small grows ⊢
    rw [List.foldl_cons, if_pos (by omega), Nat.mul_comm total, digitValue]
    exact ih _ small

theorem exponent_stops (after : List Char) (exponent : Int) (read : readExponent after = some exponent) :
    after.takeWhile Char.isDigit = [] ∧ after.dropWhile Char.isDigit = after := by
  cases after with
  | nil => exact ⟨rfl, rfl⟩
  | cons mark text =>
    have stop : mark.isDigit = false := by
      rw [← Bool.not_eq_true]
      intro digit
      have lower : mark ≠ 'e' := by rintro rfl; exact absurd digit (by decide)
      have upper : mark ≠ 'E' := by rintro rfl; exact absurd digit (by decide)
      simp [readExponent, lower, upper] at read
    simp [stop]

theorem split_sign_other (c : Char) (rest : List Char) (plus : c ≠ '+') (minus : c ≠ '-') :
    splitSign (c :: rest) = (false, c :: rest) := by
  unfold splitSign
  split
  · next same => exact absurd (List.cons.inj same).1 plus
  · next same => exact absurd (List.cons.inj same).1 minus
  · rfl

theorem split_sign_digits (digits rest : List Char) (nonempty : digits ≠ [])
    (all : ∀ c ∈ digits, c.isDigit = true) : splitSign (digits ++ rest) = (false, digits ++ rest) := by
  cases digits with
  | nil => exact absurd rfl nonempty
  | cons c others =>
    obtain ⟨plus, minus, _⟩ := sign_of_digit c (all c List.mem_cons_self)
    exact split_sign_other c (others ++ rest) plus minus

-- The exponent of a double is at most a few hundred, far from where its value stops growing.
theorem read_exponent_chars (mark : Char) (known : mark = 'e' ∨ mark = 'E') (exponent : Int)
    (small : exponent.natAbs < 65536) :
    readExponent (mark :: integerChars exponent) = some exponent := by
  have value : exponentValue (Nat.toDigits 10 exponent.natAbs) = exponent.natAbs := by
    rw [exponentValue, exponent_value_exact _ _ (by rwa [Nat.ofDigitChars_ten_toDigits]),
      Nat.ofDigitChars_ten_toDigits]
  have digits := is_digit_of_written exponent.natAbs
  have all : (Nat.toDigits 10 exponent.natAbs).all Char.isDigit = true := List.all_eq_true.mpr digits
  have present : (Nat.toDigits 10 exponent.natAbs).isEmpty = false :=
    List.isEmpty_eq_false_iff.mpr Nat.toDigits_ne_nil
  have unsigned := split_sign_digits _ [] Nat.toDigits_ne_nil digits
  rw [List.append_nil] at unsigned
  by_cases negative : exponent < 0
  · have signed : -(exponent.natAbs : Int) = exponent := by omega
    simp [readExponent, integerChars, known, negative, splitSign, all, present, value, signed,
      -Nat.cast_natAbs]
  · have signed : (exponent.natAbs : Int) = exponent := by omega
    simp [readExponent, integerChars, known, negative, unsigned, all, present, value, signed,
      -Nat.cast_natAbs]

theorem split_fraction_digits (fraction after : List Char) (all : ∀ c ∈ fraction, c.isDigit = true)
    (exponent : Int) (read : readExponent after = some exponent) :
    splitFraction ('.' :: fraction ++ after) = (fraction, after) := by
  obtain ⟨stops, rest⟩ := exponent_stops after exponent read
  rw [List.cons_append, splitFraction, List.takeWhile_append_of_pos all, List.dropWhile_append_of_pos all,
    stops, rest, List.append_nil]

theorem read_decimal_number (whole fraction after : List Char) (exponent : Int) (nonempty : whole ≠ [])
    (allWhole : ∀ c ∈ whole, c.isDigit = true) (allFraction : ∀ c ∈ fraction, c.isDigit = true)
    (read : readExponent after = some exponent) :
    ∃ d, readDecimal (whole ++ '.' :: fraction ++ after) = some d ∧
      d.inUnits = written (whole ++ fraction) (whole.length + exponent) := by
  have front : (whole ++ '.' :: fraction ++ after).takeWhile Char.isDigit = whole := by
    rw [List.append_assoc, List.takeWhile_append_of_pos allWhole]
    simp
  have back : (whole ++ '.' :: fraction ++ after).dropWhile Char.isDigit = '.' :: fraction ++ after := by
    rw [List.append_assoc, List.dropWhile_append_of_pos allWhole]
    simp
  have present : (whole.isEmpty && fraction.isEmpty) = false := by
    rw [List.isEmpty_eq_false_iff.mpr nonempty, Bool.false_and]
  refine ⟨⟨Nat.ofDigitChars 10 (whole ++ fraction) 0, exponent - fraction.length⟩, ?_, ?_⟩
  · rw [readDecimal, front, back, split_fraction_digits fraction after allFraction exponent read]
    simp only [present, Bool.false_eq_true, if_false, read]
  · have places : (whole.length : Int) + exponent - (whole ++ fraction).length =
        exponent - fraction.length := by
      rw [List.length_append]
      omega
    rw [written, Decimal.inUnits, places]

theorem read_magnitude_of_number (text : List Char) (d : Decimal)
    (number : ∃ e, readDecimal text = some e ∧ e.inUnits = d.inUnits) :
    readMagnitude text = some (Double.nearest d) := by
  obtain ⟨e, read, same⟩ := number
  rw [readMagnitude, read]
  exact congrArg some (Double.nearest_of_same_number e d same)

theorem read_positional (d : Decimal) :
    splitSign d.positional = (false, d.positional) ∧
    readMagnitude d.positional = some (Double.nearest d) := by
  have whole := Decimal.or_zero_digits _ d.positional_whole_digits
  have fraction := Decimal.or_zero_digits _ d.positional_fraction_digits
  have layout : d.positional =
      Decimal.orZero d.positionalWhole ++ '.' :: Decimal.orZero d.positionalFraction ++ [] :=
    (List.append_nil _).symm
  refine ⟨split_sign_digits _ _ (Decimal.or_zero_ne_nil _) whole, read_magnitude_of_number _ _ ?_⟩
  obtain ⟨e, read, value⟩ :=
    read_decimal_number _ _ [] 0 (Decimal.or_zero_ne_nil _) whole fraction rfl
  rw [layout]
  refine ⟨e, read, ?_⟩
  rw [value, Decimal.filled_sides, Int.add_zero, Decimal.positional_number]

theorem read_scientific (d : Decimal) (mark : Char) (known : mark = 'e' ∨ mark = 'E')
    (positive : 0 < d.digits) (small : (d.pointPosition - 1).natAbs < 65536) :
    splitSign (d.scientific mark) = (false, d.scientific mark) ∧
    readMagnitude (d.scientific mark) = some (Double.nearest d) := by
  obtain ⟨first, others, digits⟩ := List.exists_cons_of_ne_nil (d.significant_ne_nil positive)
  have all := d.significant_digits
  have number := d.significant_number
  rw [digits] at all number
  obtain ⟨leading, following⟩ := List.forall_mem_cons.mp all
  have whole : ∀ c ∈ [first], c.isDigit = true := List.forall_mem_singleton.mpr leading
  have layout : d.scientific mark =
      [first] ++ '.' :: Decimal.orZero others ++ mark :: integerChars (d.pointPosition - 1) := by
    rw [Decimal.scientific, digits]
    rfl
  rw [layout]
  constructor
  · rw [List.append_assoc]
    exact split_sign_digits [first] _ (List.cons_ne_nil _ _) whole
  · obtain ⟨e, read, value⟩ := read_decimal_number [first] _ _ _ (List.cons_ne_nil _ _) whole
      (Decimal.or_zero_digits others following) (read_exponent_chars mark known _ small)
    have point : (([first] : List Char).length : Int) + (d.pointPosition - 1) = d.pointPosition := by
      rw [List.length_singleton]
      omega
    refine read_magnitude_of_number _ _ ⟨e, read, ?_⟩
    have filled : written ([first] ++ Decimal.orZero others) ([first].length + (d.pointPosition - 1)) =
        written (first :: others) ([first].length + (d.pointPosition - 1)) :=
      Decimal.filled_sides [first] others _
    rw [value, filled, point, number]

end FloatLiteral

structure FloatFormat.Readable (format : FloatFormat) : Prop where
  mark : format.exponentMark = 'e' ∨ format.exponentMark = 'E'
  unsigned : FloatLiteral.splitSign format.infinity = (false, format.infinity)
  infinity : FloatLiteral.readMagnitude format.infinity = some Double.infinityBits
  notANumber : readFloat format.notANumber = .ok Double.notANumber

namespace Double

theorem of_parts (v : Double) : ofParts v.isNegative v.magnitude = v := by
  have parts : (if v.isNegative then signWeight + v.magnitude else v.magnitude) = v.bits.toNat := by
    have size := v.bits.toNat_lt
    by_cases negative : signWeight ≤ v.bits.toNat
    · rw [isNegative, decide_eq_true negative, if_pos rfl, magnitude]
      rw [signWeight] at negative ⊢
      omega
    · rw [isNegative, decide_eq_false negative, magnitude]
      exact Nat.mod_eq_of_lt (Nat.not_le.mp negative)
  rw [ofParts, parts, UInt64.ofNat_toNat]

theorem point_of_shortest (magnitude : Nat) (positive : 0 < magnitude) (finite : magnitude < infinityBits) :
    ((shortest magnitude).pointPosition - 1).natAbs < 65536 := by
  obtain ⟨places, exponent, least, most⟩ := shortest_digits magnitude positive finite
  obtain ⟨low, high, _, _⟩ := leading_exponent_bounds magnitude positive finite
  have long : places < (Nat.toDigits 10 (shortest magnitude).digits).length := by
    rcases Nat.eq_zero_or_pos places with rfl | more
    · exact Nat.length_toDigits_pos
    · rw [← Nat.not_le, Nat.length_toDigits_le_iff (by decide) more]
      exact Nat.not_lt.mpr least
  have short : (Nat.toDigits 10 (shortest magnitude).digits).length ≤ places + 2 := by
    rw [Nat.length_toDigits_le_iff (by decide) (by omega)]
    exact most.trans_lt (Nat.pow_lt_pow_right (by decide) (by omega))
  rw [Decimal.pointPosition, exponent]
  omega

end Double

theorem read_unsigned_float (format : FloatFormat) (readable : format.Readable) (magnitude : Nat)
    (number : magnitude ≤ Double.infinityBits) :
    FloatLiteral.splitSign (format.unsigned magnitude) = (false, format.unsigned magnitude) ∧
    FloatLiteral.readMagnitude (format.unsigned magnitude) = some magnitude := by
  rw [FloatFormat.unsigned]
  by_cases infinite : magnitude = Double.infinityBits
  · rw [if_pos infinite, infinite]
    exact ⟨readable.unsigned, readable.infinity⟩
  · have finite : magnitude < Double.infinityBits := by omega
    have back := Double.nearest_shortest magnitude finite
    rw [if_neg infinite]
    by_cases plain : format.isPlain magnitude = true
    · have read := FloatLiteral.read_positional (Double.shortest magnitude)
      rw [if_pos plain]
      rwa [back] at read
    · have positive : 0 < magnitude := by
        rw [Nat.pos_iff_ne_zero]
        rintro rfl
        exact plain rfl
      have read := FloatLiteral.read_scientific _ format.exponentMark readable.mark
        (Double.shortest_digits_pos magnitude positive finite)
        (Double.point_of_shortest magnitude positive finite)
      rw [if_neg plain]
      rwa [back] at read

theorem read_float_chars (format : FloatFormat) (readable : format.Readable) (v : Double) :
    readFloat (format.write v) = .ok (if v.isNaN then Double.notANumber else v) := by
  rw [FloatFormat.write]
  by_cases nan : v.isNaN = true
  · rw [if_pos nan, if_pos nan]
    exact readable.notANumber
  · have number : v.magnitude ≤ Double.infinityBits := by
      simpa [Double.isNaN] using nan
    obtain ⟨unsigned, read⟩ := read_unsigned_float format readable v.magnitude number
    have parts := v.of_parts
    rw [if_neg nan, if_neg nan]
    by_cases negative : v.isNegative = true
    · rw [negative] at parts
      simp [negative, readFloat, FloatLiteral.splitSign, read, parts]
    · have present : (format.unsigned v.magnitude).isEmpty = false := by
        rw [List.isEmpty_eq_false_iff]
        intro empty
        rw [empty] at read
        cases read
      rw [Bool.not_eq_true] at negative
      rw [negative] at parts
      simp [negative, readFloat, unsigned, present, read, parts]

end SeriesCell
