import SeriesCell.Text.Utf8

namespace SeriesCell.Utf8

theorem decode_cons (state : State) (byte : UInt8) (rest : Bytes) :
    decodeFrom state (byte :: rest) =
      (step state byte).1 ++ decodeFrom (step state byte).2 rest := rfl

theorem start_one (n : Nat) (small : n < 0x80) :
    start (UInt8.ofNat n) = ([Char.ofNat n], .between) := by
  have ascii : UInt8.ofNat n < 0x80 := by
    rw [UInt8.lt_iff_toNat_lt, byte_to_nat n (by omega)]
    exact small
  rw [start, if_pos ascii, byte_to_nat n (by omega)]

theorem start_two : ∀ lead : Nat, lead < 32 → 2 ≤ lead →
    start (UInt8.ofNat (lead + 0xC0)) = ([], .inside 0 0x80 0xBF lead) := by decide

-- After 0xE0 the second byte is not overlong, and after 0xED it begins no surrogate.
theorem start_three : ∀ lead : Nat, lead < 16 →
    start (UInt8.ofNat (lead + 0xE0)) =
      ([], .inside 1 (if lead = 0 then 0xA0 else 0x80) (if lead = 13 then 0x9F else 0xBF) lead) := by
  decide

-- After 0xF0 the second byte is not overlong, and after 0xF4 it stays within the last code point.
theorem start_four : ∀ lead : Nat, lead < 5 →
    start (UInt8.ofNat (lead + 0xF0)) =
      ([], .inside 2 (if lead = 0 then 0x90 else 0x80) (if lead = 4 then 0x8F else 0xBF) lead) := by
  decide

def progress (code : Nat) : Nat → List Char × State
  | 0 => ([Char.ofNat code], .between)
  | more + 1 => ([], .inside more 0x80 0xBF code)

theorem step_in_range (more : Nat) (low high : UInt8) (code tail : Nat) (small : tail < 64)
    (above : low.toNat ≤ tail + 0x80) (below : tail + 0x80 ≤ high.toNat) :
    step (.inside more low high code) (UInt8.ofNat (tail + 0x80)) = progress (code * 64 + tail) more := by
  have value := byte_to_nat (tail + 0x80) (by omega)
  have inRange : low ≤ UInt8.ofNat (tail + 0x80) ∧ UInt8.ofNat (tail + 0x80) ≤ high := by
    rw [UInt8.le_iff_toNat_le, UInt8.le_iff_toNat_le, value]
    exact ⟨above, below⟩
  have bits : (tail + 0x80) % 64 = tail := by omega
  rw [step, if_pos inRange]
  simp only [value, bits]
  cases more <;> rfl

theorem step_tail (more code tail : Nat) (small : tail < 64) :
    step (.inside more 0x80 0xBF code) (UInt8.ofNat (tail + 0x80)) = progress (code * 64 + tail) more := by
  have last : (0xBF : UInt8).toNat = 0xBF := rfl
  exact step_in_range more 0x80 0xBF code tail small (Nat.le_add_left _ _) (by omega)

theorem decode_one (n : Nat) (rest : Bytes) (high : n ≤ 0x7f) :
    decodeFrom .between (UInt8.ofNat n :: rest) = Char.ofNat n :: decodeFrom .between rest := by
  rw [decode_cons, step, start_one n (by omega)]
  rfl

theorem decode_two (n : Nat) (rest : Bytes) (low : 0x7f < n) (high : n ≤ 0x7ff) :
    decodeFrom .between (UInt8.ofNat (n / 64 % 0x20 + 0xC0) :: UInt8.ofNat (n % 0x40 + 0x80) :: rest) =
      Char.ofNat n :: decodeFrom .between rest := by
  have lead : n / 64 % 0x20 = n / 64 := by omega
  have code : n / 64 * 64 + n % 0x40 = n := by omega
  rw [decode_cons, step, lead, start_two (n / 64) (by omega) (by omega), decode_cons,
    step_tail 0 (n / 64) (n % 0x40) (by omega), code]
  rfl

theorem decode_three (n : Nat) (rest : Bytes) (low : 0x7ff < n) (high : n ≤ 0xffff)
    (valid : n < 0xd800 ∨ 0xdfff < n) :
    decodeFrom .between (UInt8.ofNat (n / 4096 % 0x10 + 0xE0) :: UInt8.ofNat (n / 64 % 0x40 + 0x80) ::
      UInt8.ofNat (n % 0x40 + 0x80) :: rest) = Char.ofNat n :: decodeFrom .between rest := by
  have lead : n / 4096 % 0x10 = n / 4096 := by omega
  have code : (n / 4096 * 64 + n / 64 % 0x40) * 64 + n % 0x40 = n := by omega
  have above : (if n / 4096 = 0 then 0xA0 else 0x80 : UInt8).toNat ≤ n / 64 % 0x40 + 0x80 := by
    split
    · change 0xA0 ≤ _
      omega
    · change 0x80 ≤ _
      omega
  have below : n / 64 % 0x40 + 0x80 ≤ (if n / 4096 = 13 then 0x9F else 0xBF : UInt8).toNat := by
    split
    · change _ ≤ 0x9F
      omega
    · change _ ≤ 0xBF
      omega
  rw [decode_cons, step, lead, start_three (n / 4096) (by omega), decode_cons,
    step_in_range 1 _ _ (n / 4096) (n / 64 % 0x40) (by omega) above below, progress, decode_cons,
    step_tail 0 _ (n % 0x40) (by omega), code]
  rfl

theorem decode_four (n : Nat) (rest : Bytes) (low : 0xffff < n) (high : n < 0x110000) :
    decodeFrom .between (UInt8.ofNat (n / 262144 % 0x08 + 0xF0) :: UInt8.ofNat (n / 4096 % 0x40 + 0x80) ::
      UInt8.ofNat (n / 64 % 0x40 + 0x80) :: UInt8.ofNat (n % 0x40 + 0x80) :: rest) =
      Char.ofNat n :: decodeFrom .between rest := by
  have lead : n / 262144 % 0x08 = n / 262144 := by omega
  have code : ((n / 262144 * 64 + n / 4096 % 0x40) * 64 + n / 64 % 0x40) * 64 + n % 0x40 = n := by omega
  have above : (if n / 262144 = 0 then 0x90 else 0x80 : UInt8).toNat ≤ n / 4096 % 0x40 + 0x80 := by
    split
    · change 0x90 ≤ _
      omega
    · change 0x80 ≤ _
      omega
  have below : n / 4096 % 0x40 + 0x80 ≤ (if n / 262144 = 4 then 0x8F else 0xBF : UInt8).toNat := by
    split
    · change _ ≤ 0x8F
      omega
    · change _ ≤ 0xBF
      omega
  rw [decode_cons, step, lead, start_four (n / 262144) (by omega), decode_cons,
    step_in_range 2 _ _ (n / 262144) (n / 4096 % 0x40) (by omega) above below, progress, decode_cons,
    step_tail 1 _ (n / 64 % 0x40) (by omega), progress, decode_cons,
    step_tail 0 _ (n % 0x40) (by omega), code]
  rfl

theorem decode_char_append (c : Char) (rest : Bytes) :
    decodeFrom .between (String.utf8EncodeChar c ++ rest) = c :: decodeFrom .between rest := by
  have valid : c.val.toNat < 0xd800 ∨ 0xdfff < c.val.toNat ∧ c.val.toNat < 0x110000 := c.valid
  have same : Char.ofNat c.val.toNat = c := c.ofNat_toNat
  unfold String.utf8EncodeChar
  generalize c.val.toNat = n at valid same
  subst same
  by_cases one : n ≤ 0x7f
  · simp only [if_pos one]
    exact decode_one n rest one
  · by_cases two : n ≤ 0x7ff
    · simp only [if_neg one, if_pos two]
      exact decode_two n rest (Nat.lt_of_not_le one) two
    · by_cases three : n ≤ 0xffff
      · simp only [if_neg one, if_neg two, if_pos three]
        exact decode_three n rest (Nat.lt_of_not_le two) three (by omega)
      · simp only [if_neg one, if_neg two, if_neg three]
        exact decode_four n rest (Nat.lt_of_not_le three) (by omega)

theorem encode_cons (c : Char) (rest : List Char) :
    encode (c :: rest) = String.utf8EncodeChar c ++ encode rest := List.flatMap_cons

theorem decode_encode (text : List Char) : decode (encode text) = text := by
  induction text with
  | nil => rfl
  | cons c rest ih =>
    rw [decode, encode_cons, decode_char_append]
    exact congrArg (List.cons c) ih

theorem encode_append (before after : List Char) : encode (before ++ after) = encode before ++ encode after :=
  List.flatMap_append

theorem encode_ascii (c : Char) (ascii : c.toNat < 128) :
    String.utf8EncodeChar c = [UInt8.ofNat c.toNat] := if_pos (Nat.le_of_lt_succ ascii)

theorem encode_cons_ascii (c : Char) (rest : List Char) (ascii : c.toNat < 128) :
    encode (c :: rest) = UInt8.ofNat c.toNat :: encode rest := by
  rw [encode_cons, encode_ascii c ascii, List.singleton_append]

theorem encode_all_ascii (text : List Char) (ascii : ∀ c ∈ text, c.toNat < 128) :
    encode text = text.map fun c => UInt8.ofNat c.toNat := by
  induction text with
  | nil => rfl
  | cons c text ih =>
    obtain ⟨first, others⟩ := List.forall_mem_cons.mp ascii
    rw [encode_cons_ascii c text first, ih others, List.map_cons]

theorem positions_at (first : Nat) (text : List Char) (k : Nat) :
    (positions first text)[k]? = text[k]?.map fun c => (first + (encode (text.take k)).length, c) := by
  induction text generalizing first k with
  | nil => rfl
  | cons c rest ih =>
    cases k with
    | zero => rfl
    | succ k =>
      rw [positions, List.getElem?_cons_succ, List.getElem?_cons_succ, ih, List.take_succ_cons,
        length_encode_cons, Nat.add_assoc]

theorem slice_first (before after : List Char) :
    slice? (before ++ after) 0 (encode before).length = some before := by
  have from_start : splitAt? 0 (before ++ after) = some ([], before ++ after) := by
    cases before ++ after <;> rfl
  simp only [slice?, from_start, Nat.sub_zero, split_at_length_encode, Option.map_some]

end SeriesCell.Utf8
