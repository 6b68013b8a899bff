import Mathlib.Tactic.Ring
import SeriesCell.Protobuf.Number

namespace SeriesCell

inductive Signed : Nat → Int → Prop where
  | even (k : Nat) : Signed (2 * k) k
  | odd (k : Nat) : Signed (2 * k + 1) (-(k : Int) - 1)

def Bytes.weight (b : Bytes) : Nat := (b.mapIdx fun i byte => byte.toNat * 256 ^ i).sum

theorem decode_of_signed (n : Nat) (v : Int) (meaning : Signed n v) : ZigZag.decode n = v := by
  cases meaning with
  | even k =>
    rw [ZigZag.decode, if_pos (by omega)]
    omega
  | odd k =>
    rw [ZigZag.decode, if_neg (by omega)]
    omega

theorem signed_decode (n : Nat) : Signed n (ZigZag.decode n) := by
  obtain ⟨k, rfl | rfl⟩ : ∃ k, n = 2 * k ∨ n = 2 * k + 1 := ⟨n / 2, by omega⟩
  · rw [decode_of_signed _ _ (.even k)]
    exact .even k
  · rw [decode_of_signed _ _ (.odd k)]
    exact .odd k

theorem signed_encode (v : Int) : Signed (ZigZag.encode v) v := by
  have meaning := signed_decode (ZigZag.encode v)
  rwa [ZigZag.decode_encode] at meaning

theorem encode_of_signed (n : Nat) (v : Int) (meaning : Signed n v) : ZigZag.encode v = n := by
  rw [← decode_of_signed n v meaning, ZigZag.encode_decode]

theorem int64_of_decode (n : Nat) (bound : n < 0x10000000000000000) :
    (Int64.ofInt (ZigZag.decode n)).toInt = ZigZag.decode n := by
  have low : -0x8000000000000000 ≤ ZigZag.decode n := by
    unfold ZigZag.decode
    split <;> omega
  have high : ZigZag.decode n < 0x8000000000000000 := by
    unfold ZigZag.decode
    split <;> omega
  exact Int64.toInt_ofInt_of_le low high

theorem zigzag_bound (v : Int64) : ZigZag.encode v.toInt < 0x10000000000000000 := by
  have low := v.le_toInt
  have high := v.toInt_lt
  rw [ZigZag.encode]
  by_cases positive : 0 ≤ v.toInt
  · rw [if_pos positive]
    omega
  · rw [if_neg positive]
    omega

theorem scaled_weight (b : Bytes) (scale : Nat) :
    (b.mapIdx fun i byte => byte.toNat * (scale * 256 ^ i)).sum = scale * LittleEndian.read b := by
  induction b generalizing scale with
  | nil => rfl
  | cons byte rest ih =>
    have shifted : (fun i (byte : UInt8) => byte.toNat * (scale * 256 ^ (i + 1))) =
        fun i byte => byte.toNat * (scale * 256 * 256 ^ i) := by
      funext i byte
      ring
    rw [List.mapIdx_cons, List.sum_cons, shifted, ih, LittleEndian.read]
    ring

theorem read_weight (b : Bytes) : LittleEndian.read b = b.weight := by
  have sum := scaled_weight b 1
  simp only [Nat.one_mul] at sum
  exact sum.symm

theorem little_endian_bound (b : Bytes) : LittleEndian.read b < 1 <<< (8 * b.length) := by
  induction b with
  | nil => decide
  | cons byte rest ih =>
    have byteBound := byte.toNat_lt
    rw [Nat.one_shiftLeft] at ih ⊢
    rw [LittleEndian.read, List.length_cons, Nat.mul_succ, Nat.pow_add]
    omega

theorem little_endian_write_read (b : Bytes) : LittleEndian.write b.length (LittleEndian.read b) = b := by
  induction b with
  | nil => rfl
  | cons byte rest ih =>
    have byteBound := byte.toNat_lt
    have low : (byte.toNat + 256 * LittleEndian.read rest) % 256 = byte.toNat := by omega
    have shifted : (byte.toNat + 256 * LittleEndian.read rest) / 256 = LittleEndian.read rest := by omega
    rw [LittleEndian.read, List.length_cons, LittleEndian.write, low, shifted, ih, UInt8.ofNat_toNat]

theorem word_weight (b : Bytes) (size : b.length = 8) :
    (UInt64.ofNat (LittleEndian.read b)).toNat = b.weight := by
  have bound := little_endian_bound b
  rw [size] at bound
  rw [← read_weight]
  exact UInt64.toNat_ofNat_of_lt bound

end SeriesCell
