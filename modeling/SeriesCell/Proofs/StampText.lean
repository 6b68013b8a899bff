import Mathlib.Algebra.Group.Nat.Defs
import SeriesCell.Time.Stamp
import SeriesCell.Proofs.Milliseconds
import SeriesCell.Proofs.Numerals

/- Which texts are time stamps, and of which instant, said without the readers. A text is read exactly if
   it is written in this notation, and then as the milliseconds that its parts make up. -/
namespace SeriesCell

structure FixedDigits (width n : Nat) (text : List Char) : Prop where
  digits : ∀ c ∈ text, c.isDigit = true
  size : text.length = width
  value : Nat.ofDigitChars 10 text 0 = n

instance (width n : Nat) (text : List Char) : Decidable (FixedDigits width n text) :=
  decidable_of_iff (text.all Char.isDigit = true ∧ text.length = width ∧ Nat.ofDigitChars 10 text 0 = n)
    ⟨fun ⟨all, size, value⟩ => ⟨List.all_eq_true.mp all, size, value⟩,
      fun spelled => ⟨List.all_eq_true.mpr spelled.digits, spelled.size, spelled.value⟩⟩

theorem FixedDigits.lt (width n : Nat) (text : List Char) (spelled : FixedDigits width n text) :
    n < 10 ^ width := by
  have dropped := digits_dropped text 0 spelled.digits
  rw [spelled.value, spelled.size] at dropped
  exact Nat.lt_of_div_eq_zero (Nat.pow_pos (by decide)) dropped

namespace Stamp

def leadingDigits (count : Nat) (digits : List Char) : Nat :=
  Nat.ofDigitChars 10 ((digits ++ List.replicate count '0').take count) 0

structure Parts where
  date : Date
  hour : Nat
  minute : Nat
  second : Nat
  fraction : List Char
  east : Int

-- Second 60 counts as the first second of the next minute.
def Parts.millis (p : Parts) : Int :=
  1000 * (86400 * p.date.dayNumber + 3600 * p.hour + 60 * p.minute + p.second - 60 * p.east) +
    leadingDigits 3 p.fraction

def secondOfDay (hour minute second : Nat) : Nat := hour * 3600 + minute * 60 + min second 59

def nanoseconds (second : Nat) (fraction : List Char) : Nat :=
  leadingDigits 9 fraction + if second = 60 then 1000000000 else 0

def Parts.nanos (p : Parts) : Nat := nanoseconds p.second p.fraction

end Stamp

end SeriesCell
