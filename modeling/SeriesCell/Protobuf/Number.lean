import SeriesCell.Bytes

namespace SeriesCell

def ZigZag.encode (v : Int) : Nat :=
  if 0 ≤ v then 2 * v.toNat else 2 * (-v).toNat - 1

def ZigZag.decode (n : Nat) : Int :=
  if n % 2 = 0 then (n / 2 : Nat) else -((n / 2 : Nat) : Int) - 1

theorem ZigZag.decode_encode (v : Int) : ZigZag.decode (ZigZag.encode v) = v := by
  unfold ZigZag.encode ZigZag.decode
  split <;> split <;> omega

theorem ZigZag.encode_decode (n : Nat) : ZigZag.encode (ZigZag.decode n) = n := by
  unfold ZigZag.encode ZigZag.decode
  split <;> split <;> omega

def LittleEndian.write : Nat → Nat → Bytes
  | 0, _ => []
  | count + 1, n => UInt8.ofNat (n % 256) :: LittleEndian.write count (n / 256)

def LittleEndian.read : Bytes → Nat
  | [] => 0
  | byte :: rest => byte.toNat + 256 * LittleEndian.read rest

theorem LittleEndian.length_write (count n : Nat) :
    (LittleEndian.write count n).length = count := by
  induction count generalizing n with
  | zero => rfl
  | succ count ih => simp [LittleEndian.write, ih]

theorem LittleEndian.read_write (count n : Nat) (bound : n < 1 <<< (8 * count)) :
    LittleEndian.read (LittleEndian.write count n) = n := by
  induction count generalizing n with
  | zero => simp at bound; simp [LittleEndian.write, LittleEndian.read, bound]
  | succ count ih =>
    have high : n / 256 < 1 <<< (8 * count) := by
      rw [Nat.shiftLeft_eq, Nat.mul_succ, Nat.pow_add] at bound
      rw [Nat.shiftLeft_eq]
      omega
    have byte : (UInt8.ofNat (n % 256)).toNat = n % 256 := by simp
    rw [LittleEndian.write, LittleEndian.read, ih _ high, byte]
    omega

end SeriesCell
