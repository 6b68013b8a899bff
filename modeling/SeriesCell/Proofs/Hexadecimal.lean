import SeriesCell.Proofs.Characters
import SeriesCell.Text.Hex

namespace SeriesCell.Hex

theorem digit_lower_case : ∀ value < 16,
    digit value ∈ "0123456789abcdef".toList ∧ (digit value).toLower = digit value := by decide

theorem write_cons (byte : UInt8) (rest : Bytes) :
    write (byte :: rest) = digit (byte.toNat / 16) :: digit (byte.toNat % 16) :: write rest := rfl

theorem length_write (b : Bytes) : (write b).length = 2 * b.length := by
  induction b with
  | nil => rfl
  | cons byte rest ih =>
    rw [write_cons, List.length_cons, List.length_cons, ih, List.length_cons]
    omega

theorem write_lower_case (b : Bytes) (c : Char) (member : c ∈ write b) :
    c ∈ "0123456789abcdef".toList ∧ c.toLower = c := by
  obtain ⟨byte, _, half⟩ := List.mem_flatMap.mp member
  have byteBound := byte.toNat_lt
  simp only [List.mem_cons, List.not_mem_nil, or_false] at half
  rcases half with rfl | rfl
  · exact digit_lower_case _ (by omega)
  · exact digit_lower_case _ (by omega)

theorem ascii_of_lower_case (c : Char) (value : Nat) (small : value < 16) (same : c.toLower = digit value) :
    c.toNat < 128 := by
  have written : ∀ value < 16, (digit value).toNat < 128 := by decide
  unfold Char.toLower at same
  split at same
  · rename_i upper
    have bound : c.toNat ≤ 90 := upper.2
    omega
  · rw [same]
    exact written value small

theorem digit_value_either_case : ∀ n < 128, ∀ value < 16, (Char.ofNat n).toLower = digit value →
    digitValue? (UInt8.ofNat n) = some value := by decide +kernel

theorem digit_value_typed (c : Char) (value : Nat) (small : value < 16) (same : c.toLower = digit value) :
    digitValue? (UInt8.ofNat c.toNat) = some value := by
  apply digit_value_either_case c.toNat (ascii_of_lower_case c value small same) value small
  rw [Char.ofNat_toNat, same]

theorem read_pair_typed (byte : UInt8) (x y : Char) (high : x.toLower = digit (byte.toNat / 16))
    (low : y.toLower = digit (byte.toNat % 16)) :
    readPair (UInt8.ofNat x.toNat, UInt8.ofNat y.toNat) = .ok byte := by
  have byteBound := byte.toNat_lt
  have whole : byte.toNat / 16 * 16 + byte.toNat % 16 = byte.toNat := by omega
  simp only [readPair, digit_value_typed x _ (by omega) high, digit_value_typed y _ (by omega) low, whole,
    UInt8.ofNat_toNat]

theorem pairs_typed (b : Bytes) (typed : List Char) (same : typed.map Char.toLower = write b) :
    ∃ parts, pairs (Utf8.encode typed) = some parts ∧ readPairs parts = .ok b := by
  induction b generalizing typed with
  | nil =>
    rw [List.map_eq_nil_iff.mp same]
    exact ⟨[], rfl, rfl⟩
  | cons byte rest ih =>
    have byteBound := byte.toNat_lt
    rw [write_cons] at same
    obtain ⟨x, tail, rfl, high, others⟩ := List.map_eq_cons_iff.mp same
    obtain ⟨y, left, rfl, low, more⟩ := List.map_eq_cons_iff.mp others
    obtain ⟨parts, paired, read⟩ := ih left more
    refine ⟨(UInt8.ofNat x.toNat, UInt8.ofNat y.toNat) :: parts, ?_, ?_⟩
    · rw [Utf8.encode_cons_ascii x _ (ascii_of_lower_case x _ (by omega) high),
        Utf8.encode_cons_ascii y _ (ascii_of_lower_case y _ (by omega) low), pairs, paired, Option.map_some]
    · simp only [readPairs, read_pair_typed byte x y high low, read]

theorem read_typed (b : Bytes) (typed : List Char) (same : typed.map Char.toLower = write b) :
    read typed = .ok b := by
  obtain ⟨parts, paired, done⟩ := pairs_typed b typed same
  simp only [read, paired, done]

theorem length_of_pairs (b : Bytes) (parts : List (UInt8 × UInt8)) (paired : pairs b = some parts) :
    b.length = 2 * parts.length := by
  fun_induction pairs b generalizing parts with
  | case1 =>
    cases paired
    rfl
  | case2 => cases paired
  | case3 first second rest ih =>
    obtain ⟨others, same, rfl⟩ := Option.map_eq_some_iff.mp paired
    have half := ih others same
    simp only [List.length_cons]
    omega

end SeriesCell.Hex
