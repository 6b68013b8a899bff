import SeriesCell.Double.Shortest
import SeriesCell.Proofs.Nearest

/- The decimal that is chosen for a magnitude is read back as it. The grids of decimals get ten times
   finer with each digit, and at the seventeenth a step is less than what is read as the magnitude. -/
namespace SeriesCell.Double

def gridStep (exponent : Int) : ℚ := 10 ^ exponent * unitsInOne

theorem grid_step_pos (exponent : Int) : 0 < gridStep exponent :=
  mul_pos (zpow_pos (by norm_num) exponent) units_in_one_pos

theorem grid_step_add (exponent : Int) (count : Nat) :
    gridStep (exponent + count) = 10 ^ count * gridStep exponent := by
  rw [gridStep, gridStep, zpow_add₀ (by norm_num), zpow_natCast]
  ring

theorem on_grid (digits : Nat) (exponent : Int) :
    (Decimal.mk digits exponent).inUnits = digits * gridStep exponent := by
  rw [Decimal.inUnits, gridStep, mul_assoc]

theorem scaled_step (exponent : Int) :
    ((Decimal.mk 1 exponent).scaled : ℚ) = gridStep exponent * (Decimal.mk 1 exponent).denominator := by
  rw [scaled_in_units, on_grid, Nat.cast_one, one_mul]

theorem reaches_power_iff (magnitude : Nat) (exponent : Int) :
    reachesPower magnitude exponent = true ↔ gridStep exponent ≤ units magnitude := by
  rw [reachesPower, decide_eq_true_eq, ← Nat.cast_le (α := ℚ), scaled_step, Nat.cast_mul,
    mul_le_mul_iff_left₀ (denominator_cast_pos _)]

theorem neighbours_enclose (magnitude : Nat) (exponent : Int) :
    (lowerNeighbour magnitude exponent).inUnits ≤ units magnitude ∧
    (units magnitude : ℚ) < (upperNeighbour magnitude exponent).inUnits ∧
    (upperNeighbour magnitude exponent).inUnits =
      (lowerNeighbour magnitude exponent).inUnits + gridStep exponent := by
  have positive := denominator_cast_pos ⟨1, exponent⟩
  have scaled := scaled_step exponent
  have scaledPositive : 0 < (Decimal.mk 1 exponent).scaled := by
    rw [← Nat.cast_pos (α := ℚ), scaled]
    exact mul_pos (grid_step_pos exponent) positive
  rw [upperNeighbour, lowerNeighbour, on_grid, on_grid]
  simp only
  generalize quotient : units magnitude * (Decimal.mk 1 exponent).denominator /
    (Decimal.mk 1 exponent).scaled = digits
  have below : digits * (Decimal.mk 1 exponent).scaled ≤
      units magnitude * (Decimal.mk 1 exponent).denominator :=
    (Nat.le_div_iff_mul_le scaledPositive).mp (Nat.le_of_eq quotient.symm)
  have above : units magnitude * (Decimal.mk 1 exponent).denominator <
      (digits + 1) * (Decimal.mk 1 exponent).scaled :=
    (Nat.div_lt_iff_lt_mul scaledPositive).mp (Nat.lt_succ_of_le (Nat.le_of_eq quotient))
  rw [← Nat.cast_le (α := ℚ), Nat.cast_mul, Nat.cast_mul, scaled, ← mul_assoc,
    mul_le_mul_iff_left₀ positive] at below
  rw [← Nat.cast_lt (α := ℚ), Nat.cast_mul, Nat.cast_mul, scaled, ← mul_assoc,
    mul_lt_mul_iff_left₀ positive] at above
  exact ⟨below, above, by rw [Nat.cast_add, Nat.cast_one]; ring⟩

theorem middles_enclose (k : Nat) :
    upperMiddle k < units (k + 1) ∧ (units (k + 1) : ℚ) < upperMiddle (k + 1) := by
  have below : (units k : ℚ) < units (k + 1) := Nat.cast_lt.mpr (units_lt_succ k)
  have above : (units (k + 1) : ℚ) < units (k + 2) := Nat.cast_lt.mpr (units_lt_succ (k + 1))
  rw [upperMiddle, upperMiddle]
  constructor <;> linarith

-- A step that is shorter than what is read as the magnitude cannot jump over it.
theorem neighbour_reads (k : Nat) (exponent : Int)
    (narrow : gridStep exponent < upperMiddle (k + 1) - upperMiddle k) :
    reads (lowerNeighbour (k + 1) exponent) (k + 1) = true ∨
    reads (upperNeighbour (k + 1) exponent) (k + 1) = true := by
  obtain ⟨below, above, step⟩ := neighbours_enclose (k + 1) exponent
  obtain ⟨low, high⟩ := middles_enclose k
  by_cases inside : upperMiddle k < (lowerNeighbour (k + 1) exponent).inUnits
  · exact .inl (reads_of_inside _ _ (.inr inside) (by linarith))
  · exact .inr (reads_of_inside _ _ (.inr (by rw [Nat.add_sub_cancel]; linarith)) (by linarith))

theorem candidate_of_neighbour (magnitude : Nat) (exponent : Int)
    (one : reads (lowerNeighbour magnitude exponent) magnitude = true ∨
      reads (upperNeighbour magnitude exponent) magnitude = true) :
    ∃ d, candidate? magnitude exponent = some d := by
  unfold candidate?
  cases lower : reads (lowerNeighbour magnitude exponent) magnitude <;>
    cases upper : reads (upperNeighbour magnitude exponent) magnitude <;>
    simp [lower, upper] at one ⊢

theorem candidate_cases (magnitude : Nat) (exponent : Int) (d : Decimal)
    (found : candidate? magnitude exponent = some d) :
    reads d magnitude = true ∧
    (d = lowerNeighbour magnitude exponent ∨ d = upperNeighbour magnitude exponent) := by
  rw [candidate?] at found
  cases lower : reads (lowerNeighbour magnitude exponent) magnitude with
  | true =>
    cases upper : reads (upperNeighbour magnitude exponent) magnitude with
    | true =>
      simp only [lower, upper, Option.some.injEq] at found
      by_cases nearer : lowerIsNearer magnitude exponent = true
      · rw [if_pos nearer] at found
        exact ⟨found ▸ lower, .inl found.symm⟩
      · rw [if_neg nearer] at found
        exact ⟨found ▸ upper, .inr found.symm⟩
    | false =>
      simp only [lower, upper, Option.some.injEq] at found
      exact ⟨found ▸ lower, .inl found.symm⟩
  | false =>
    cases upper : reads (upperNeighbour magnitude exponent) magnitude with
    | true =>
      simp only [lower, upper, Option.some.injEq] at found
      exact ⟨found ▸ upper, .inr found.symm⟩
    | false => simp [lower, upper] at found

theorem refine_finds (magnitude count offset : Nat) (exponent : Int) (within : offset < count)
    (reached : ∃ d, candidate? magnitude (exponent - offset) = some d) :
    ∃ first : Nat, first ≤ offset ∧
      candidate? magnitude (exponent - first) = some (refine magnitude count exponent) := by
  induction count generalizing offset exponent with
  | zero => omega
  | succ count ih =>
    rw [refine]
    cases here : candidate? magnitude exponent with
    | some d => exact ⟨0, Nat.zero_le _, by simpa using here⟩
    | none =>
      cases offset with
      | zero =>
        obtain ⟨d, found⟩ := reached
        simp [here] at found
      | succ offset =>
        have shifted : exponent - (offset + 1 : Nat) = exponent - 1 - offset := by omega
        rw [shifted] at reached
        obtain ⟨first, early, found⟩ := ih offset (exponent - 1) (by omega) reached
        have moved : exponent - 1 - first = exponent - (first + 1 : Nat) := by omega
        rw [moved] at found
        exact ⟨first + 1, by omega, found⟩

theorem grid_step_mono (low high : Int) (order : low ≤ high) : gridStep low ≤ gridStep high :=
  mul_le_mul_of_nonneg_right (zpow_le_zpow_right₀ (by norm_num) order) units_in_one_pos.le

theorem least_power : 2 ^ 1074 ≤ 10 ^ 324 := by decide +kernel

theorem top_power : 2 ^ 1024 ≤ 10 ^ 309 := by decide +kernel

theorem least_power_reached : gridStep (-324) ≤ 1 := by
  have powers : (2 : ℚ) ^ 1074 ≤ 10 ^ 324 := by exact_mod_cast least_power
  have inverse : (10 : ℚ) ^ (-324 : Int) = (10 ^ 324)⁻¹ := zpow_neg 10 324
  rw [gridStep, inverse, unitsInOne]
  exact inv_mul_le_one_of_le₀ powers (pow_nonneg (by norm_num) 324)

theorem finite_below_power (magnitude : Nat) (finite : magnitude < infinityBits) :
    (units magnitude : ℚ) < gridStep 309 := by
  have exponent : magnitude / 0x10000000000000 - 1 ≤ 2045 := by
    have bits : infinityBits = 0x7ff * 0x10000000000000 := rfl
    omega
  have spaced : (spacing magnitude : ℚ) ≤ 2 ^ 2045 := by
    rw [spacing, Nat.one_shiftLeft, Nat.cast_pow, Nat.cast_ofNat]
    exact pow_le_pow_right₀ one_le_two exponent
  have small : (units magnitude : ℚ) < 2 ^ 53 * spacing magnitude := by
    exact_mod_cast units_lt_spacing magnitude
  have powers : (2 : ℚ) ^ 1024 ≤ 10 ^ 309 := by exact_mod_cast top_power
  have positive := units_in_one_pos.le
  calc (units magnitude : ℚ) < 2 ^ 53 * spacing magnitude := small
    _ ≤ 2 ^ 53 * 2 ^ 2045 := mul_le_mul_of_nonneg_left spaced (pow_nonneg two_pos.le 53)
    _ = 2 ^ 1024 * unitsInOne := by rw [unitsInOne, ← pow_add, ← pow_add]
    _ ≤ 10 ^ 309 * unitsInOne := mul_le_mul_of_nonneg_right powers positive
    _ = gridStep 309 := by rw [gridStep, ← zpow_natCast, Nat.cast_ofNat]

theorem units_positive (magnitude : Nat) (positive : 0 < magnitude) : 0 < units magnitude := by
  obtain ⟨below, rfl⟩ := Nat.exists_eq_add_of_lt positive
  rw [Nat.zero_add]
  exact Nat.zero_lt_of_lt (units_lt_succ below)

theorem leading_exponent_bounds (magnitude : Nat) (positive : 0 < magnitude)
    (finite : magnitude < infinityBits) :
    -324 ≤ leadingExponent magnitude ∧ leadingExponent magnitude ≤ 308 ∧
    gridStep (leadingExponent magnitude) ≤ units magnitude ∧
    (units magnitude : ℚ) < gridStep (leadingExponent magnitude + 1) := by
  have closed : ∀ k : Nat, reachesPower magnitude ((k + 1 : Nat) - 324) = true →
      reachesPower magnitude (k - 324) = true := by
    intro k reached
    rw [reaches_power_iff] at reached ⊢
    exact (grid_step_mono _ _ (by omega)).trans reached
  have counted : ∀ k : Nat, k + 1 < 1024 →
      (k < boundOf (fun k => reachesPower magnitude (k - 324)) 10 ↔
        gridStep (k - 324) ≤ units magnitude) := by
    intro k small
    rw [← reaches_power_iff]
    exact lt_bound_of_iff closed 10 k small
  rw [leadingExponent]
  generalize boundOf (fun k => reachesPower magnitude (k - 324)) 10 = count at counted ⊢
  have first : 0 < count := by
    rw [counted 0 (by omega)]
    exact least_power_reached.trans (Nat.one_le_cast.mpr (units_positive magnitude positive))
  have last : ¬633 < count := by
    rw [counted 633 (by omega), not_le]
    exact finite_below_power magnitude finite
  refine ⟨by omega, by omega, ?_, ?_⟩
  · have reached := (counted (count - 1) (by omega)).mp (by omega)
    rwa [show ((count - 1 : Nat) : Int) - 324 = count - 325 by omega] at reached
  · have passed := (counted count (by omega)).not.mp (lt_irrefl count)
    rwa [not_le, show (count : Int) - 324 = count - 325 + 1 by omega] at passed

theorem shortest_candidate (magnitude : Nat) (positive : 0 < magnitude)
    (finite : magnitude < infinityBits) :
    ∃ places : Nat, places ≤ 16 ∧
      candidate? magnitude (leadingExponent magnitude - places) = some (shortest magnitude) := by
  obtain ⟨_, _, reached, _⟩ := leading_exponent_bounds magnitude positive finite
  obtain ⟨below, rfl⟩ := Nat.exists_eq_add_of_lt positive
  rw [Nat.zero_add] at reached ⊢
  have narrow : gridStep (leadingExponent (below + 1) - (16 : Nat)) <
      upperMiddle (below + 1) - upperMiddle below := by
    have coarse := grid_step_add (leadingExponent (below + 1) - (16 : Nat)) 16
    rw [Int.sub_add_cancel] at coarse
    have apart := middles_apart below
    linarith
  rw [shortest, if_neg (Nat.succ_ne_zero below)]
  exact refine_finds (below + 1) 17 16 _ (by omega)
    (candidate_of_neighbour _ _ (neighbour_reads below _ narrow))

theorem nearest_shortest (magnitude : Nat) (finite : magnitude < infinityBits) :
    nearest (shortest magnitude) = magnitude := by
  rw [nearest_eq_iff _ finite]
  rcases Nat.eq_zero_or_pos magnitude with rfl | positive
  · have middle : 0 < upperMiddle 0 := by
      rw [upperMiddle]
      have next : (0 : ℚ) < units 1 := Nat.cast_pos.mpr (units_positive 1 Nat.one_pos)
      positivity
    refine reads_of_inside _ _ (.inl rfl) ?_
    rwa [shortest, if_pos rfl, on_grid, Nat.cast_zero, zero_mul]
  · obtain ⟨_, _, found⟩ := shortest_candidate magnitude positive finite
    exact (candidate_cases _ _ _ found).1

example : shortest 1 = ⟨5, -324⟩ := by decide +kernel

theorem lower_digits (magnitude places : Nat) (positive : 0 < magnitude)
    (finite : magnitude < infinityBits) :
    10 ^ places ≤ (lowerNeighbour magnitude (leadingExponent magnitude - places)).digits ∧
    (lowerNeighbour magnitude (leadingExponent magnitude - places)).digits < 10 ^ (places + 1) := by
  obtain ⟨_, _, reached, passed⟩ := leading_exponent_bounds magnitude positive finite
  obtain ⟨below, above, step⟩ := neighbours_enclose magnitude (leadingExponent magnitude - places)
  have coarse := grid_step_add (leadingExponent magnitude - places) places
  have coarser := grid_step_add (leadingExponent magnitude - places) (places + 1 : Nat)
  have width := grid_step_pos (leadingExponent magnitude - places)
  rw [Int.sub_add_cancel] at coarse
  rw [Nat.cast_add, Nat.cast_one, ← Int.add_assoc, Int.sub_add_cancel] at coarser
  have first : (lowerNeighbour magnitude (leadingExponent magnitude - places)).inUnits =
      (lowerNeighbour magnitude (leadingExponent magnitude - places)).digits *
        gridStep (leadingExponent magnitude - places) := on_grid _ _
  generalize (lowerNeighbour magnitude (leadingExponent magnitude - places)).digits = digits at *
  rw [step, first] at above
  rw [first] at below
  rw [coarse] at reached
  rw [coarser] at passed
  have least : (10 : ℚ) ^ places < (digits + 1 : Nat) := by
    refine lt_of_mul_lt_mul_right ?_ width.le
    calc (10 : ℚ) ^ places * gridStep (leadingExponent magnitude - places)
        ≤ units magnitude := reached
      _ < digits * gridStep (leadingExponent magnitude - places) +
          gridStep (leadingExponent magnitude - places) := above
      _ = (digits + 1 : Nat) * gridStep (leadingExponent magnitude - places) := by
          rw [Nat.cast_add, Nat.cast_one, add_one_mul]
  have most : (digits : ℚ) < 10 ^ (places + 1) :=
    lt_of_mul_lt_mul_right (below.trans_lt passed) width.le
  exact ⟨Nat.le_of_lt_succ (by exact_mod_cast least), by exact_mod_cast most⟩

theorem shortest_digits (magnitude : Nat) (positive : 0 < magnitude) (finite : magnitude < infinityBits) :
    ∃ places : Nat, (shortest magnitude).exponent = leadingExponent magnitude - places ∧
      10 ^ places ≤ (shortest magnitude).digits ∧ (shortest magnitude).digits ≤ 10 ^ (places + 1) := by
  obtain ⟨places, _, found⟩ := shortest_candidate magnitude positive finite
  obtain ⟨least, most⟩ := lower_digits magnitude places positive finite
  refine ⟨places, ?_⟩
  rcases (candidate_cases _ _ _ found).2 with lower | upper
  · rw [lower]
    exact ⟨rfl, least, most.le⟩
  · rw [upper]
    exact ⟨rfl, least.trans (Nat.le_succ _), most⟩

theorem shortest_digits_pos (magnitude : Nat) (positive : 0 < magnitude)
    (finite : magnitude < infinityBits) : 0 < (shortest magnitude).digits := by
  obtain ⟨places, _, least, _⟩ := shortest_digits magnitude positive finite
  exact (Nat.pow_pos (by decide)).trans_le least

end SeriesCell.Double
