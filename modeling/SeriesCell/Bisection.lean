/- Counting by bisection: a test that, once it fails, fails for all larger numbers is true below one
   bound, and that bound is found one bit at a time. -/
namespace SeriesCell

def boundFrom (test : Nat → Bool) : Nat → Nat → Nat
  | 0, base => base
  | bits + 1, base =>
    let middle := base + 1 <<< bits
    boundFrom test bits (if test (middle - 1) then middle else base)

def boundOf (test : Nat → Bool) (bits : Nat) : Nat := boundFrom test bits 0

theorem shift_succ (bits : Nat) : 1 <<< (bits + 1) = 1 <<< bits + 1 <<< bits := by
  simp only [Nat.one_shiftLeft, Nat.pow_succ]
  omega

theorem shift_positive (bits : Nat) : 0 < 1 <<< bits := by
  rw [Nat.one_shiftLeft]
  exact Nat.two_pow_pos bits

theorem holds_below {test : Nat → Bool} (closed : ∀ k, test (k + 1) → test k) {low high : Nat}
    (order : low ≤ high) (holds : test high) : test low := by
  induction high with
  | zero => rwa [Nat.le_zero.mp order]
  | succ high ih =>
    rcases Nat.eq_or_lt_of_le order with rfl | less
    · exact holds
    · exact ih (Nat.le_of_lt_succ less) (closed high holds)

theorem bound_from_bounds (test : Nat → Bool) (bits base : Nat) :
    base ≤ boundFrom test bits base ∧ boundFrom test bits base < base + 1 <<< bits := by
  induction bits generalizing base with
  | zero => simp [boundFrom]
  | succ bits ih =>
    have double := shift_succ bits
    rw [boundFrom]
    split
    · have bounds := ih (base + 1 <<< bits)
      omega
    · have bounds := ih base
      omega

theorem lt_bound_from_iff {test : Nat → Bool} (closed : ∀ k, test (k + 1) → test k)
    (bits base k : Nat) (low : base ≤ k) (high : k + 1 < base + 1 <<< bits) :
    k < boundFrom test bits base ↔ test k := by
  induction bits generalizing base with
  | zero => simp at high; omega
  | succ bits ih =>
    have double := shift_succ bits
    have positive := shift_positive bits
    rw [boundFrom]
    by_cases holds : test (base + 1 <<< bits - 1) = true
    · rw [if_pos holds]
      by_cases upper : base + 1 <<< bits ≤ k
      · exact ih _ upper (by omega)
      · have bounds := bound_from_bounds test bits (base + 1 <<< bits)
        exact ⟨fun _ => holds_below closed (by omega) holds, fun _ => by omega⟩
    · rw [if_neg holds]
      by_cases upper : k + 1 < base + 1 <<< bits
      · exact ih _ low upper
      · have bounds := bound_from_bounds test bits base
        exact ⟨fun _ => by omega,
          fun found => absurd (holds_below closed (by omega) found) holds⟩

theorem lt_bound_of_iff {test : Nat → Bool} (closed : ∀ k, test (k + 1) → test k)
    (bits k : Nat) (high : k + 1 < 1 <<< bits) : k < boundOf test bits ↔ test k :=
  lt_bound_from_iff closed bits 0 k (Nat.zero_le k) (by omega)

end SeriesCell
