import SeriesCell.Bytes

/- Base-128 numbers: seven bits a byte, least significant first, and the top bit set on every byte
   but the last. The reader takes at most ten bytes and a value below 2^64, padded or not. -/
namespace SeriesCell.Varint

def write (n : Nat) : Bytes :=
  if n < 128 then [UInt8.ofNat n]
  else UInt8.ofNat (n % 128 + 128) :: write (n / 128)
termination_by n
decreasing_by omega

def size (n : Nat) : Nat := n.log2 / 7 + 1

-- Reads a number of at most `limit` bytes. Of ten bytes the tenth has one bit left to give.
def readWithin : Nat → Bytes → Option (Nat × Bytes)
  | 0, _ => none
  | _, [] => none
  | limit + 1, byte :: rest =>
    if byte.toNat < 128 then
      if limit = 0 ∧ 1 < byte.toNat then none else some (byte.toNat, rest)
    else
      match readWithin limit rest with
      | some (high, rest) => some (byte.toNat - 128 + 128 * high, rest)
      | none => none

def read (b : Bytes) : Option (Nat × Bytes) := readWithin 10 b

theorem read_within_shorter {limit n : Nat} {b rest : Bytes}
    (h : readWithin limit b = some (n, rest)) : rest.length < b.length := by
  induction limit generalizing b n rest with
  | zero => simp [readWithin] at h
  | succ limit ih =>
    cases b with
    | nil => simp [readWithin] at h
    | cons byte tail =>
      simp only [readWithin] at h
      split at h
      · split at h
        · simp at h
        · simp only [Option.some.injEq, Prod.mk.injEq] at h
          simp [h.2]
      · split at h
        · rename_i high after found
          simp only [Option.some.injEq, Prod.mk.injEq] at h
          have shorter := ih found
          rw [h.2] at shorter
          exact Nat.lt_succ_of_lt shorter
        · simp at h

theorem read_shorter {n : Nat} {b rest : Bytes} (h : read b = some (n, rest)) :
    rest.length < b.length :=
  read_within_shorter h

theorem read_within_write (limit n : Nat) (rest : Bytes) (bound : n < 2 <<< (7 * limit)) :
    readWithin (limit + 1) (write n ++ rest) = some (n, rest) := by
  induction limit generalizing n with
  | zero =>
    have small : n < 2 := by simpa using bound
    rw [write, if_pos (by omega)]
    simp only [List.cons_append, List.nil_append, readWithin]
    rw [byte_to_nat _ (by omega), if_pos (by omega), if_neg (by omega)]
  | succ limit ih =>
    rw [write]
    by_cases single : n < 128
    · rw [if_pos single]
      simp only [List.cons_append, List.nil_append, readWithin]
      rw [byte_to_nat _ (by omega), if_pos single, if_neg (by omega)]
    · rw [if_neg single]
      have high : n / 128 < 2 <<< (7 * limit) := by
        simp only [Nat.shiftLeft_eq, Nat.mul_succ, Nat.pow_add] at bound ⊢
        omega
      simp only [List.cons_append]
      rw [readWithin, byte_to_nat _ (by omega), if_neg (by omega), ih _ high]
      simp only [Option.some.injEq, Prod.mk.injEq, and_true]
      omega

theorem read_write (n : Nat) (rest : Bytes) (bound : n < 0x10000000000000000) :
    read (write n ++ rest) = some (n, rest) :=
  read_within_write 9 n rest bound

theorem length_write (n : Nat) : (write n).length = size n := by
  induction n using Nat.strongRecOn with
  | ind n ih =>
    rw [write]
    unfold size
    by_cases single : n < 128
    · rw [if_pos single]
      have small : n.log2 < 7 := by
        by_cases zero : n = 0
        · subst zero; decide
        · exact (Nat.log2_lt zero).mpr single
      simp; omega
    · rw [if_neg single, List.length_cons, ih (n / 128) (by omega)]
      unfold size
      have big : 7 ≤ n.log2 := (Nat.le_log2 (by omega)).mpr (by omega)
      have low := Nat.log2_self_le (n := n) (by omega)
      have high := Nat.lt_log2_self (n := n)
      obtain ⟨k, same⟩ := Nat.exists_eq_add_of_le' big
      rw [same, Nat.pow_add] at low
      rw [same, Nat.add_right_comm, Nat.pow_add] at high
      have shifted : (n / 128).log2 = k :=
        (Nat.log2_eq_iff (by omega)).mpr ⟨by omega, by omega⟩
      omega

end SeriesCell.Varint
