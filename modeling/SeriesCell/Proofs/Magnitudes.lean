import SeriesCell.Cell.Display
import SeriesCell.Proofs.Shortest

namespace SeriesCell

open Double

theorem units_strict_mono : StrictMono units := strictMono_nat_of_lt_succ units_lt_succ

def Double.InPlainRange (v : Double) : Prop :=
  units v.magnitude = 0 ∨
  (units (nearest ⟨1, -3⟩) ≤ units v.magnitude ∧ units v.magnitude < units (nearest ⟨1, 7⟩))

theorem plain_from_nearest : nearest ⟨1, -3⟩ = Cell.floatFormat.plainFrom := by
  have read : reads ⟨1, -3⟩ Cell.floatFormat.plainFrom = true := by decide +kernel
  exact (nearest_eq_iff _ (by decide)).mpr read

theorem plain_below_nearest : nearest ⟨1, 7⟩ = Cell.floatFormat.plainBelow := by
  have read : reads ⟨1, 7⟩ Cell.floatFormat.plainBelow = true := by decide +kernel
  exact (nearest_eq_iff _ (by decide)).mpr read

theorem is_plain_iff (v : Double) : Cell.floatFormat.isPlain v.magnitude = true ↔ v.InPlainRange := by
  have zero : units v.magnitude = 0 ↔ v.magnitude = 0 := units_strict_mono.injective.eq_iff (b := 0)
  rw [Double.InPlainRange, plain_from_nearest, plain_below_nearest, zero, units_strict_mono.le_iff_le,
    units_strict_mono.lt_iff_lt, FloatFormat.isPlain, Bool.or_eq_true, Bool.and_eq_true, beq_iff_eq,
    decide_eq_true_eq, decide_eq_true_eq]

namespace Double

theorem lies_above_mono (d e : Decimal) (order : d.inUnits ≤ e.inUnits) (k : Nat)
    (above : liesAbove d k = true) : liesAbove e k = true := by
  rw [lies_above_iff] at above ⊢
  rcases above with less | ⟨equal, odd⟩
  · exact .inl (less.trans_le order)
  · rcases (equal.trans_le order).lt_or_eq with less | same
    · exact .inl less
    · exact .inr ⟨same, odd⟩

theorem nearest_mono (d e : Decimal) (order : d.inUnits ≤ e.inUnits) : nearest d ≤ nearest e := by
  by_contra! less
  have finite : nearest e < infinityBits := less.trans_le (Nat.min_le_right _ _)
  have bound : boundOf (liesAbove e) 63 = nearest e := by
    rw [nearest] at finite ⊢
    omega
  have above := (lt_bound_iff d finite).mp (less.trans_le (Nat.min_le_left _ _))
  have beyond := (lt_bound_iff e finite).mpr (lies_above_mono d e order _ above)
  omega

end Double

theorem point_encloses (d : Decimal) (positive : 0 < d.digits) :
    gridStep (d.pointPosition - 1) ≤ d.inUnits ∧ d.inUnits < gridStep d.pointPosition := by
  have width := grid_step_pos d.exponent
  have number : d.inUnits = d.digits * gridStep d.exponent := on_grid d.digits d.exponent
  have count : 0 < (Nat.toDigits 10 d.digits).length := Nat.length_toDigits_pos
  have below : d.digits < 10 ^ (Nat.toDigits 10 d.digits).length :=
    (Nat.length_toDigits_le_iff (by decide) count).mp (Nat.le_refl _)
  have above : 10 ^ ((Nat.toDigits 10 d.digits).length - 1) ≤ d.digits := by
    rcases Nat.eq_zero_or_pos ((Nat.toDigits 10 d.digits).length - 1) with single | more
    · rw [single]
      exact positive
    · rw [← Nat.not_lt, ← Nat.length_toDigits_le_iff (by decide) more]
      omega
  have last : d.pointPosition = d.exponent + (Nat.toDigits 10 d.digits).length := Int.add_comm _ _
  have first : d.pointPosition - 1 = d.exponent + ((Nat.toDigits 10 d.digits).length - 1 : Nat) := by
    omega
  constructor
  · rw [first, grid_step_add, number]
    exact mul_le_mul_of_nonneg_right (by exact_mod_cast above) width.le
  · rw [last, grid_step_add, number]
    exact mul_lt_mul_of_pos_right (by exact_mod_cast below) width

theorem grid_step_lt (low high : Int) (less : gridStep low < gridStep high) : low < high := by
  by_contra! order
  exact absurd (grid_step_mono high low order) (not_le.mpr less)

theorem point_below_plain (magnitude : Nat) (positive : 0 < magnitude)
    (small : magnitude < nearest ⟨1, -3⟩) : (shortest magnitude).pointPosition - 1 ≤ -4 := by
  have finite : magnitude < infinityBits := small.trans_le (Nat.min_le_right _ _)
  have less : (shortest magnitude).inUnits < gridStep (-3) := by
    by_contra! order
    rw [← one_mul (gridStep (-3)), ← Nat.cast_one, ← on_grid] at order
    have above := nearest_mono _ _ order
    rw [nearest_shortest magnitude finite] at above
    omega
  have enclosed := (point_encloses _ (shortest_digits_pos magnitude positive finite)).1
  have order := grid_step_lt _ _ (enclosed.trans_lt less)
  omega

-- Rounding may take the digits up to the next power of ten, but never below the leading one.
theorem shortest_reaches_leading (magnitude : Nat) (positive : 0 < magnitude)
    (finite : magnitude < infinityBits) :
    gridStep (leadingExponent magnitude) ≤ (shortest magnitude).inUnits := by
  obtain ⟨places, exponent, least, _⟩ := shortest_digits magnitude positive finite
  have coarse := grid_step_add (leadingExponent magnitude - places) places
  have width := grid_step_pos (leadingExponent magnitude - places)
  have number : (shortest magnitude).inUnits =
      (shortest magnitude).digits * gridStep (shortest magnitude).exponent := on_grid _ _
  rw [Int.sub_add_cancel] at coarse
  rw [coarse, number, exponent]
  exact mul_le_mul_of_nonneg_right (by exact_mod_cast least) width.le

theorem point_above_plain (magnitude : Nat) (positive : 0 < magnitude) (finite : magnitude < infinityBits)
    (large : nearest ⟨1, 7⟩ ≤ magnitude) : 7 ≤ (shortest magnitude).pointPosition - 1 := by
  have reached : gridStep 7 ≤ units (nearest ⟨1, 7⟩) := by
    rw [plain_below_nearest]
    exact (reaches_power_iff _ _).mp (by decide +kernel)
  have order : (units (nearest ⟨1, 7⟩) : ℚ) ≤ units magnitude :=
    Nat.cast_le.mpr (units_strict_mono.monotone large)
  obtain ⟨_, _, _, passed⟩ := leading_exponent_bounds magnitude positive finite
  have leading := grid_step_lt _ _ ((reached.trans order).trans_lt passed)
  have number := grid_step_mono 7 (leadingExponent magnitude) (by omega)
  have written := shortest_reaches_leading magnitude positive finite
  have enclosed := (point_encloses _ (shortest_digits_pos magnitude positive finite)).2
  have point := grid_step_lt _ _ ((number.trans written).trans_lt enclosed)
  omega

end SeriesCell
