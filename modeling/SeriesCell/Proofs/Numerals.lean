import Mathlib.Algebra.Group.Nat.Defs
import SeriesCell.Text.Numeral

namespace SeriesCell

def withSign (negative : Bool) (n : Nat) : Int := if negative then -n else n

theorem is_digit_of_written (n : Nat) (c : Char) (member : c ∈ Nat.toDigits 10 n) : c.isDigit = true :=
  Nat.isDigit_of_mem_toDigits (by decide) (by decide) member

theorem digit_char_ne_zero : ∀ n < 10, n ≠ 0 → Nat.digitChar n ≠ '0' := by decide

theorem leading_digit (n : Nat) (positive : n ≠ 0) : (Nat.toDigits 10 n).head? ≠ some '0' := by
  induction n using Nat.strongRecOn with
  | ind n ih =>
    rcases Nat.lt_or_ge n 10 with single | more
    · rw [Nat.toDigits_of_lt_base single, List.head?_cons]
      exact fun zero => digit_char_ne_zero n single positive (Option.some.inj zero)
    · have leading := ih (n / 10) (by omega) (by omega)
      obtain ⟨first, rest, digits⟩ :=
        List.exists_cons_of_ne_nil (Nat.toDigits_ne_nil (n := n / 10) (b := 10))
      rw [digits] at leading
      rw [Nat.toDigits_of_base_le (by decide) more, digits]
      exact leading

theorem digit_bounds (c : Char) (digit : c.isDigit = true) : 48 ≤ c.toNat ∧ c.toNat ≤ 57 := by
  simp only [Char.isDigit, Bool.and_eq_true, decide_eq_true_eq] at digit
  exact digit

theorem zeros_digits (count : Nat) : ∀ c ∈ List.replicate count '0', c.isDigit = true := by
  intro c member
  rw [List.eq_of_mem_replicate member]
  decide

theorem digits_grow (digits : List Char) (total : Nat) : total ≤ Nat.ofDigitChars 10 digits total := by
  induction digits generalizing total with
  | nil => exact Nat.le_of_eq Nat.ofDigitChars_nil.symm
  | cons c rest ih =>
    rw [Nat.ofDigitChars_cons]
    have later := ih (10 * total + (c.toNat - '0'.toNat))
    omega

theorem digits_dropped (digits : List Char) (total : Nat) (all : ∀ c ∈ digits, c.isDigit = true) :
    Nat.ofDigitChars 10 digits total / 10 ^ digits.length = total := by
  induction digits generalizing total with
  | nil => rw [Nat.ofDigitChars_nil, List.length_nil, Nat.pow_zero, Nat.div_one]
  | cons c rest ih =>
    obtain ⟨first, others⟩ := List.forall_mem_cons.mp all
    obtain ⟨_, last⟩ := digit_bounds c first
    rw [Nat.ofDigitChars_cons, List.length_cons, Nat.pow_succ, ← Nat.div_div_eq_div_mul, ih _ others]
    change (10 * total + (c.toNat - 48)) / 10 = total
    omega

theorem next_total (negative : Bool) (total : Nat) (c : Char) :
    (if negative then withSign negative total * 10 - digitValue c
      else withSign negative total * 10 + digitValue c) =
      withSign negative (10 * total + (c.toNat - '0'.toNat)) := by
  cases negative <;> simp only [withSign, digitValue, Bool.false_eq_true, if_false, if_true] <;> omega

-- The total only grows away from zero, so it stays in range up to a result that is in range.
theorem read_digits_complete (negative : Bool) (digits : List Char) (total : Nat)
    (all : ∀ c ∈ digits, c.isDigit = true)
    (low : -0x8000000000000000 ≤ withSign negative (Nat.ofDigitChars 10 digits total))
    (high : withSign negative (Nat.ofDigitChars 10 digits total) ≤ 0x7fffffffffffffff) :
    readDigits negative (withSign negative total) digits =
      .ok (withSign negative (Nat.ofDigitChars 10 digits total)) := by
  induction digits generalizing total with
  | nil => rfl
  | cons c rest ih =>
    obtain ⟨first, others⟩ := List.forall_mem_cons.mp all
    rw [Nat.ofDigitChars_cons] at low high ⊢
    have more := digits_grow rest (10 * total + (c.toNat - '0'.toNat))
    rw [readDigits, if_pos first]
    simp only [next_total]
    have notLarge : ¬ 0x7fffffffffffffff < withSign negative (10 * total + (c.toNat - '0'.toNat)) := by
      cases negative <;> simp only [withSign, Bool.false_eq_true, if_false, if_true] at high ⊢ <;> omega
    have notSmall : ¬ withSign negative (10 * total + (c.toNat - '0'.toNat)) < -0x8000000000000000 := by
      cases negative <;> simp only [withSign, Bool.false_eq_true, if_false, if_true] at low ⊢ <;> omega
    rw [if_neg notLarge, if_neg notSmall]
    exact ih _ others low high

theorem sign_of_digit (c : Char) (digit : c.isDigit = true) : c ≠ '+' ∧ c ≠ '-' ∧ c ≠ '.' := by
  refine ⟨?_, ?_, ?_⟩ <;> rintro rfl <;> exact absurd digit (by decide)

theorem read_from_digit (c : Char) (rest : List Char) (digit : c.isDigit = true) :
    readInteger (c :: rest) = readDigits false 0 (c :: rest) := by
  obtain ⟨plus, minus, _⟩ := sign_of_digit c digit
  simp [readInteger, plus, minus]

theorem read_unsigned (digits : List Char) (nonempty : digits ≠ [])
    (all : ∀ c ∈ digits, c.isDigit = true) : readInteger digits = readDigits false 0 digits := by
  cases digits with
  | nil => exact absurd rfl nonempty
  | cons c rest => exact read_from_digit c rest (all c List.mem_cons_self)

theorem read_negative (digits : List Char) (nonempty : digits ≠ []) :
    readInteger ('-' :: digits) = readDigits true 0 digits := by
  cases digits with
  | nil => exact absurd rfl nonempty
  | cons c rest => rfl

theorem read_integer_chars (v : Int) (low : -0x8000000000000000 ≤ v) (high : v ≤ 0x7fffffffffffffff) :
    readInteger (integerChars v) = .ok v := by
  have all := is_digit_of_written v.natAbs
  by_cases negative : v < 0
  · have signed : withSign true v.natAbs = v := by simp only [withSign, if_true]; omega
    have read := read_digits_complete true (Nat.toDigits 10 v.natAbs) 0 all
    rw [Nat.ofDigitChars_ten_toDigits, signed] at read
    rw [integerChars, if_pos negative, read_negative _ Nat.toDigits_ne_nil]
    exact read low high
  · have signed : withSign false v.natAbs = v := by
      simp only [withSign, Bool.false_eq_true, if_false]; omega
    have read := read_digits_complete false (Nat.toDigits 10 v.natAbs) 0 all
    rw [Nat.ofDigitChars_ten_toDigits, signed] at read
    rw [integerChars, if_neg negative, read_unsigned _ Nat.toDigits_ne_nil all]
    exact read low high

theorem read_int64_chars (v : Int64) : readInteger (integerChars v.toInt) = .ok v.toInt := by
  have low := v.le_toInt
  have high := v.toInt_lt
  exact read_integer_chars v.toInt (by omega) (by omega)

end SeriesCell
