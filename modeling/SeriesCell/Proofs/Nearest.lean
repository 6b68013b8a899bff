import Mathlib.Algebra.Order.Field.Power
import Mathlib.Data.Rat.Cast.Order
import Mathlib.Tactic.FieldSimp
import Mathlib.Tactic.Linarith
import Mathlib.Tactic.Positivity
import Mathlib.Tactic.Ring
import SeriesCell.Double.Rounding

/- Decimals and magnitudes on one scale. Which magnitude is nearest depends only on the number that a
   decimal stands for, and everything between the two middles around a magnitude is read as it. -/
namespace SeriesCell

def unitsInOne : ℚ := 2 ^ 1074

def Decimal.inUnits (d : Decimal) : ℚ := d.digits * 10 ^ d.exponent * unitsInOne

theorem units_in_one_pos : 0 < unitsInOne := pow_pos two_pos 1074

theorem shift_cast (n count : Nat) : ((n <<< count : Nat) : ℚ) = n * 2 ^ count := by
  rw [Nat.shiftLeft_eq, Nat.cast_mul, Nat.cast_pow, Nat.cast_ofNat]

theorem power_of_ten (exponent : Int) :
    (10 : ℚ) ^ exponent * 10 ^ (-exponent).toNat = 10 ^ exponent.toNat := by
  rw [← zpow_natCast, ← zpow_natCast, ← zpow_add₀ (by norm_num)]
  congr 1
  omega

theorem scaled_in_units (d : Decimal) : (d.scaled : ℚ) = d.inUnits * d.denominator := by
  have shifted : (d.scaled : ℚ) = d.numerator * unitsInOne := by
    unfold Decimal.scaled
    exact shift_cast d.numerator 1074
  have power := power_of_ten d.exponent
  rw [shifted, Decimal.inUnits, Decimal.numerator, Decimal.denominator, Nat.pow_eq, Nat.pow_eq,
    Nat.cast_mul, Nat.cast_pow, Nat.cast_pow, Nat.cast_ofNat, ← power]
  ring

namespace Double

theorem denominator_cast_pos (d : Decimal) : (0 : ℚ) < d.denominator := Nat.cast_pos.mpr (denominator_pos d)

def upperMiddle (magnitude : Nat) : ℚ := (units magnitude + units (magnitude + 1)) / 2

theorem lies_above_iff (d : Decimal) (magnitude : Nat) :
    liesAbove d magnitude = true ↔
      upperMiddle magnitude < d.inUnits ∨ (upperMiddle magnitude = d.inUnits ∧ magnitude % 2 = 1) := by
  have positive := denominator_cast_pos d
  have middle : (((units magnitude + units (magnitude + 1)) * d.denominator : Nat) : ℚ) =
      2 * upperMiddle magnitude * d.denominator := by
    rw [Nat.cast_mul, Nat.cast_add, upperMiddle]
    ring
  have twice : ((2 * d.scaled : Nat) : ℚ) = 2 * d.inUnits * d.denominator := by
    rw [Nat.cast_mul, Nat.cast_ofNat, scaled_in_units]
    ring
  have less : (units magnitude + units (magnitude + 1)) * d.denominator < 2 * d.scaled ↔
      upperMiddle magnitude < d.inUnits := by
    rw [← Nat.cast_lt (α := ℚ), middle, twice, mul_lt_mul_iff_left₀ positive]
    constructor <;> intro order <;> linarith
  have equal : (units magnitude + units (magnitude + 1)) * d.denominator = 2 * d.scaled ↔
      upperMiddle magnitude = d.inUnits := by
    rw [← Nat.cast_inj (R := ℚ), middle, twice, mul_left_inj' positive.ne']
    constructor <;> intro order <;> linarith
  simp only [liesAbove, Bool.or_eq_true, Bool.and_eq_true, decide_eq_true_eq, beq_iff_eq, less, equal]

theorem nearest_of_same_number (d e : Decimal) (same : d.inUnits = e.inUnits) : nearest d = nearest e := by
  have tests : liesAbove d = liesAbove e := by
    funext magnitude
    rw [Bool.eq_iff_iff, lies_above_iff, lies_above_iff, same]
  rw [nearest, nearest, tests]

theorem reads_of_inside (d : Decimal) (magnitude : Nat)
    (above : magnitude = 0 ∨ upperMiddle (magnitude - 1) < d.inUnits)
    (below : d.inUnits < upperMiddle magnitude) : reads d magnitude = true := by
  have notAbove : liesAbove d magnitude = false := by
    rw [← Bool.not_eq_true, lies_above_iff]
    rintro (more | ⟨equal, _⟩) <;> linarith
  rw [reads, notAbove, Bool.not_false, Bool.true_and, Bool.or_eq_true, beq_iff_eq, lies_above_iff]
  rcases above with zero | more
  · exact .inl zero
  · exact .inr (.inl more)

theorem units_lt_spacing (k : Nat) : units k < 0x20000000000000 * spacing k := by
  have below := Nat.mod_lt k (y := 0x10000000000000) (by decide)
  unfold units spacing
  cases k / 0x10000000000000 with
  | zero => simp only [Nat.zero_sub]; omega
  | succ e =>
    simp only [Nat.shiftLeft_eq, Nat.one_mul, Nat.add_sub_cancel]
    exact Nat.mul_lt_mul_of_pos_right (by omega) (Nat.two_pow_pos e)

theorem units_of_power (k : Nat) (first : k % 0x10000000000000 = 0) (positive : k ≠ 0) :
    units k = 0x10000000000000 * spacing k := by
  obtain ⟨e, exponent⟩ : ∃ e, k / 0x10000000000000 = e + 1 := ⟨k / 0x10000000000000 - 1, by omega⟩
  simp only [units, spacing, exponent, first, Nat.shiftLeft_eq, Nat.one_mul, Nat.add_sub_cancel,
    Nat.add_zero]

-- What is read as a magnitude spans more than its value over 10^16, also where the spacing doubles.
theorem middles_apart (k : Nat) :
    (units (k + 1) : ℚ) < 10 ^ 16 * (upperMiddle (k + 1) - upperMiddle k) := by
  have positive := spacing_pos (k + 1)
  have wide : 2 * units (k + 1) < 10 ^ 16 * (spacing k + spacing (k + 1)) := by
    by_cases first : (k + 1) % 0x10000000000000 = 0
    · have value := units_of_power (k + 1) first (Nat.succ_ne_zero k)
      omega
    · have alike : spacing (k + 1) = spacing k := by
        have exponents : (k + 1) / 0x10000000000000 = k / 0x10000000000000 := by omega
        rw [spacing, spacing, exponents]
      have value := units_lt_spacing (k + 1)
      omega
  have rational : (2 * units (k + 1) : ℚ) < 10 ^ 16 * (spacing k + spacing (k + 1)) := by
    exact_mod_cast wide
  have below : (units (k + 1) : ℚ) = units k + spacing k := by exact_mod_cast units_succ k
  have above : (units (k + 2) : ℚ) = units (k + 1) + spacing (k + 1) := by
    exact_mod_cast units_succ (k + 1)
  rw [upperMiddle, upperMiddle, above]
  linarith

end Double

end SeriesCell
