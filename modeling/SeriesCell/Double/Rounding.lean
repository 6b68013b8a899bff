import SeriesCell.Bisection
import SeriesCell.Double

/- Decimal numbers and the doubles nearest to them, in exact arithmetic. Magnitudes are measured in
   units of 2^-1074, the least double above zero, of which every finite double is a whole number. -/
namespace SeriesCell

structure Decimal where
  digits : Nat
  exponent : Int
deriving DecidableEq

def Decimal.numerator (d : Decimal) : Nat := d.digits * Nat.pow 10 d.exponent.toNat

def Decimal.denominator (d : Decimal) : Nat := Nat.pow 10 (-d.exponent).toNat

-- The numerator of the decimal in units, over the same denominator. Proofs that unfold the shift take
-- a step for each of its places.
@[irreducible]
def Decimal.scaled (d : Decimal) : Nat := d.numerator <<< 1074

namespace Double

-- The value of a magnitude. Above the fraction each step of the exponent doubles the value, except
-- the first, which adds the leading bit.
def units (magnitude : Nat) : Nat :=
  let fraction := magnitude % 0x10000000000000
  match magnitude / 0x10000000000000 with
  | 0 => fraction
  | exponent + 1 => (0x10000000000000 + fraction) <<< exponent

def liesAbove (d : Decimal) (magnitude : Nat) : Bool :=
  let middle := (units magnitude + units (magnitude + 1)) * d.denominator
  let twice := 2 * d.scaled
  decide (middle < twice) || (middle == twice && magnitude % 2 == 1)

def nearest (d : Decimal) : Nat := min (boundOf (liesAbove d) 63) infinityBits

def reads (d : Decimal) (magnitude : Nat) : Bool :=
  !liesAbove d magnitude && (magnitude == 0 || liesAbove d (magnitude - 1))

def spacing (magnitude : Nat) : Nat := 1 <<< (magnitude / 0x10000000000000 - 1)

theorem units_succ (k : Nat) : units (k + 1) = units k + spacing k := by
  unfold units spacing
  by_cases last : k % 0x10000000000000 = 0xfffffffffffff
  · have up : (k + 1) / 0x10000000000000 = k / 0x10000000000000 + 1 := by omega
    have zero : (k + 1) % 0x10000000000000 = 0 := by omega
    simp only [up, zero, last]
    cases k / 0x10000000000000 with
    | zero => decide
    | succ e =>
      simp only [Nat.shiftLeft_eq, Nat.pow_succ, Nat.add_sub_cancel]
      omega
  · have up : (k + 1) / 0x10000000000000 = k / 0x10000000000000 := by omega
    have more : (k + 1) % 0x10000000000000 = k % 0x10000000000000 + 1 := by omega
    simp only [up, more]
    cases k / 0x10000000000000 with
    | zero => simp
    | succ e =>
      simp only [Nat.shiftLeft_eq, Nat.add_sub_cancel]
      rw [← Nat.add_assoc, Nat.add_mul _ 1]

theorem spacing_pos (magnitude : Nat) : 0 < spacing magnitude := shift_positive _

theorem units_lt_succ (k : Nat) : units k < units (k + 1) := by
  rw [units_succ]
  exact Nat.lt_add_of_pos_right (spacing_pos k)

theorem denominator_pos (d : Decimal) : 0 < d.denominator := Nat.pow_pos (by decide)

theorem lies_above_closed (d : Decimal) (k : Nat) (h : liesAbove d (k + 1)) : liesAbove d k := by
  have first := units_lt_succ k
  have second := units_lt_succ (k + 1)
  have middle := Nat.mul_lt_mul_of_pos_right (Nat.add_lt_add first second) (denominator_pos d)
  simp only [liesAbove, Bool.or_eq_true, Bool.and_eq_true, decide_eq_true_eq, beq_iff_eq] at h ⊢
  omega

theorem lt_bound_iff (d : Decimal) {k : Nat} (finite : k < infinityBits) :
    k < boundOf (liesAbove d) 63 ↔ liesAbove d k := by
  have room : infinityBits < 1 <<< 63 := by decide
  exact lt_bound_of_iff (lies_above_closed d) 63 k (by omega)

theorem nearest_eq_iff (d : Decimal) {k : Nat} (finite : k < infinityBits) :
    nearest d = k ↔ reads d k := by
  have here := lt_bound_iff d finite
  unfold nearest reads
  cases k with
  | zero =>
    simp only [beq_self_eq_true, Bool.true_or, Bool.and_true, Bool.not_eq_true', ← Bool.not_eq_true,
      ← here]
    omega
  | succ k =>
    have below := lt_bound_iff d (Nat.lt_of_succ_lt finite)
    simp only [Nat.add_sub_cancel, Bool.and_eq_true, Bool.not_eq_true', Bool.or_eq_true,
      beq_iff_eq, ← Bool.not_eq_true, ← here, ← below]
    omega

end Double

end SeriesCell
