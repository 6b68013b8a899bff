import Mathlib.Algebra.Group.Nat.Defs
import SeriesCell.Proofs.Characters

/- Where the reader of text stands, told by the bytes since the last whole character. They begin some
   character; the state says which bytes may come next, and with any other byte no character begins. -/
namespace SeriesCell.Utf8

def Begins (part : Bytes) : Prop := ∃ c, part <+: String.utf8EncodeChar c

def tailBytes : Nat → Nat → Bytes
  | 0, _ => []
  | count + 1, n => UInt8.ofNat (n / 64 ^ count % 64 + 0x80) :: tailBytes count n

-- A character has begun. Whatever has the number so far and a next byte in the range is a character,
-- and it is written with the bytes so far in front.
structure Underway (part : Bytes) (more : Nat) (low high : UInt8) (code : Nat) : Prop where
  begun : part ≠ []
  above : 0x80 ≤ low.toNat
  below : high.toNat ≤ 0xBF
  ordered : low.toNat ≤ high.toNat
  read : ∀ rest, decode (part ++ rest) = decodeFrom (.inside more low high code) rest
  written : ∀ n, n / 64 ^ more / 64 = code → low.toNat ≤ n / 64 ^ more % 64 + 0x80 →
    n / 64 ^ more % 64 + 0x80 ≤ high.toNat →
    String.utf8EncodeChar (Char.ofNat n) = part ++ tailBytes (more + 1) n

theorem to_nat_of_nat (n : Nat) (valid : n < 0xd800 ∨ 0xdfff < n ∧ n < 0x110000) :
    (Char.ofNat n).val.toNat = n := by
  have scalar : n.isValidChar := valid
  rw [Char.ofNat, dif_pos scalar]
  exact UInt32.toNat_ofNatLT

theorem encode_char_one (n : Nat) (high : n ≤ 0x7f) :
    String.utf8EncodeChar (Char.ofNat n) = [UInt8.ofNat n] := by
  rw [String.utf8EncodeChar, to_nat_of_nat n (by omega)]
  exact if_pos high

theorem encode_char_two (n : Nat) (low : 0x7f < n) (high : n ≤ 0x7ff) :
    String.utf8EncodeChar (Char.ofNat n) = UInt8.ofNat (n / 64 % 0x20 + 0xC0) :: tailBytes 1 n := by
  rw [String.utf8EncodeChar, to_nat_of_nat n (by omega)]
  simp only [if_neg (Nat.not_le.mpr low), if_pos high, tailBytes, Nat.pow_zero, Nat.div_one]

theorem encode_char_three (n : Nat) (low : 0x7ff < n) (high : n ≤ 0xffff)
    (valid : n < 0xd800 ∨ 0xdfff < n) :
    String.utf8EncodeChar (Char.ofNat n) = UInt8.ofNat (n / 4096 % 0x10 + 0xE0) :: tailBytes 2 n := by
  rw [String.utf8EncodeChar, to_nat_of_nat n (by omega)]
  have two : ¬ n ≤ 0x7f := by omega
  simp only [if_neg two, if_neg (Nat.not_le.mpr low), if_pos high, tailBytes, Nat.pow_zero, Nat.div_one,
    Nat.pow_one]

theorem encode_char_four (n : Nat) (low : 0xffff < n) (high : n < 0x110000) :
    String.utf8EncodeChar (Char.ofNat n) = UInt8.ofNat (n / 262144 % 0x08 + 0xF0) :: tailBytes 3 n := by
  rw [String.utf8EncodeChar, to_nat_of_nat n (by omega)]
  have two : ¬ n ≤ 0x7f := by omega
  have three : ¬ n ≤ 0x7ff := by omega
  simp only [if_neg two, if_neg three, if_neg (Nat.not_le.mpr low), tailBytes, Nat.pow_zero, Nat.div_one,
    Nat.pow_one, Nat.reducePow]

theorem decode_started (byte : UInt8) (rest : Bytes) :
    decode (byte :: rest) = (start byte).1 ++ decodeFrom (start byte).2 rest := rfl

theorem underway_two (lead : Nat) (low : 2 ≤ lead) (high : lead < 32) :
    Underway [UInt8.ofNat (lead + 0xC0)] 0 0x80 0xBF lead where
  begun := List.cons_ne_nil _ _
  above := Nat.le_refl _
  below := Nat.le_refl _
  ordered := by decide
  read rest := by rw [List.singleton_append, decode_started, start_two lead high low, List.nil_append]
  written n number _ _ := by
    rw [Nat.pow_zero, Nat.div_one] at number
    have digit : n / 64 % 0x20 = lead := by omega
    rw [encode_char_two n (by omega) (by omega), digit]
    rfl

theorem underway_three (lead : Nat) (high : lead < 16) :
    Underway [UInt8.ofNat (lead + 0xE0)] 1 (if lead = 0 then 0xA0 else 0x80)
      (if lead = 13 then 0x9F else 0xBF) lead where
  begun := List.cons_ne_nil _ _
  above := by split <;> decide
  below := by split <;> decide
  ordered := by
    by_cases least : lead = 0
    · rw [if_pos least, if_neg (by omega)]
      decide
    · rw [if_neg least]
      split <;> decide
  read rest := by rw [List.singleton_append, decode_started, start_three lead high, List.nil_append]
  written n number above below := by
    rw [Nat.pow_one] at number above below
    have digit : n / 4096 % 0x10 = lead := by omega
    have range : 0x7ff < n ∧ n ≤ 0xffff ∧ (n < 0xd800 ∨ 0xdfff < n) := by
      by_cases least : lead = 0
      · rw [if_pos least] at above
        change 0xA0 ≤ _ at above
        omega
      · by_cases surrogate : lead = 13
        · rw [if_pos surrogate] at below
          change _ ≤ 0x9F at below
          omega
        · omega
    rw [encode_char_three n range.1 range.2.1 range.2.2, digit]
    rfl

theorem underway_four (lead : Nat) (high : lead < 5) :
    Underway [UInt8.ofNat (lead + 0xF0)] 2 (if lead = 0 then 0x90 else 0x80)
      (if lead = 4 then 0x8F else 0xBF) lead where
  begun := List.cons_ne_nil _ _
  above := by split <;> decide
  below := by split <;> decide
  ordered := by
    by_cases least : lead = 0
    · rw [if_pos least, if_neg (by omega)]
      decide
    · rw [if_neg least]
      split <;> decide
  read rest := by rw [List.singleton_append, decode_started, start_four lead high, List.nil_append]
  written n number above below := by
    have square : 64 ^ 2 = 4096 := rfl
    rw [square] at number above below
    have digit : n / 262144 % 0x08 = lead := by omega
    have range : 0xffff < n ∧ n < 0x110000 := by
      by_cases least : lead = 0
      · rw [if_pos least] at above
        change 0x90 ≤ _ at above
        omega
      · by_cases greatest : lead = 4
        · rw [if_pos greatest] at below
          change _ ≤ 0x8F at below
          omega
        · omega
    rw [encode_char_four n range.1 range.2, digit]
    rfl

theorem step_inside (more : Nat) (low high byte : UInt8) (code : Nat) (inside : low ≤ byte ∧ byte ≤ high) :
    step (.inside more low high code) byte = progress (code * 64 + byte.toNat % 64) more := by
  rw [step, if_pos inside]
  cases more <;> rfl

theorem step_outside (more : Nat) (low high byte : UInt8) (code : Nat)
    (outside : ¬ (low ≤ byte ∧ byte ≤ high)) :
    step (.inside more low high code) byte = (replacement :: (start byte).1, (start byte).2) := if_neg outside

theorem decode_outside (more : Nat) (low high byte : UInt8) (code : Nat) (rest : Bytes)
    (outside : ¬ (low ≤ byte ∧ byte ≤ high)) :
    decodeFrom (.inside more low high code) (byte :: rest) = replacement :: decode (byte :: rest) := by
  rw [decode_cons, step_outside more low high byte code outside]
  rfl

theorem inside_ne_nil (more : Nat) (low high : UInt8) (code : Nat) (b : Bytes) :
    decodeFrom (.inside more low high code) b ≠ [] := by
  induction b generalizing more low high code with
  | nil => exact List.cons_ne_nil _ _
  | cons byte rest ih =>
    by_cases inside : low ≤ byte ∧ byte ≤ high
    · rw [decode_cons, step_inside more low high byte code inside]
      cases more with
      | zero => exact List.cons_ne_nil _ _
      | succ more => exact ih more 0x80 0xBF _
    · rw [decode_outside more low high byte code rest inside]
      exact List.cons_ne_nil _ _

theorem start_tail : ∀ tail : Nat, tail < 66 →
    start (UInt8.ofNat (tail + 0x80)) = ([replacement], .between) := by decide

theorem start_beyond : ∀ beyond : Nat, beyond < 11 →
    start (UInt8.ofNat (beyond + 0xF5)) = ([replacement], .between) := by decide

theorem start_cases (byte : UInt8) :
    (byte.toNat ≤ 0x7f ∧ start byte = ([Char.ofNat byte.toNat], .between)) ∨
    ((∃ more low high code, start byte = ([], .inside more low high code) ∧
      Underway [byte] more low high code)) ∨
    start byte = ([replacement], .between) := by
  have bound := byte.toNat_lt
  have whole : UInt8.ofNat byte.toNat = byte := UInt8.ofNat_toNat
  generalize byte.toNat = n at bound whole
  subst whole
  by_cases one : n ≤ 0x7f
  · exact .inl ⟨one, start_one n (Nat.lt_succ_of_le one)⟩
  by_cases follows : n < 0xC2
  · obtain ⟨tail, rfl⟩ := Nat.exists_eq_add_of_le' (show 0x80 ≤ n by omega)
    exact .inr (.inr (start_tail tail (by omega)))
  by_cases two : n < 0xE0
  · obtain ⟨lead, rfl⟩ := Nat.exists_eq_add_of_le' (show 0xC0 ≤ n by omega)
    have started := start_two lead (by omega) (by omega)
    exact .inr (.inl ⟨_, _, _, _, started, underway_two lead (by omega) (by omega)⟩)
  by_cases three : n < 0xF0
  · obtain ⟨lead, rfl⟩ := Nat.exists_eq_add_of_le' (show 0xE0 ≤ n by omega)
    exact .inr (.inl ⟨_, _, _, _, start_three lead (by omega), underway_three lead (by omega)⟩)
  by_cases four : n < 0xF5
  · obtain ⟨lead, rfl⟩ := Nat.exists_eq_add_of_le' (show 0xF0 ≤ n by omega)
    exact .inr (.inl ⟨_, _, _, _, start_four lead (by omega), underway_four lead (by omega)⟩)
  · obtain ⟨beyond, rfl⟩ := Nat.exists_eq_add_of_le' (show 0xF5 ≤ n by omega)
    exact .inr (.inr (start_beyond beyond (by omega)))

theorem decode_eq_nil_iff (b : Bytes) : decode b = [] ↔ b = [] := by
  cases b with
  | nil => exact iff_of_true rfl rfl
  | cons byte rest =>
    apply iff_of_false _ (List.cons_ne_nil byte rest)
    rw [decode_started]
    rcases start_cases byte with ⟨_, ascii⟩ | ⟨more, low, high, code, lead, _⟩ | astray
    · rw [ascii]
      exact List.cons_ne_nil _ _
    · rw [lead]
      exact inside_ne_nil more low high code rest
    · rw [astray]
      exact List.cons_ne_nil _ _

theorem decode_char (c : Char) : decode (String.utf8EncodeChar c) = [c] := by
  have alone := decode_char_append c []
  rwa [List.append_nil] at alone

theorem encode_char_ne_nil (c : Char) : String.utf8EncodeChar c ≠ [] := by
  intro empty
  have nothing := decode_char c
  rw [empty] at nothing
  exact List.cons_ne_nil c [] nothing.symm

theorem astray_begins_nothing (byte : UInt8) (astray : start byte = ([replacement], .between)) :
    ¬ Begins [byte] := by
  rintro ⟨c, rest, whole⟩
  have read := decode_char c
  rw [← whole, List.singleton_append, decode_started, astray] at read
  obtain ⟨rfl, silent⟩ := List.cons.inj read
  -- Nothing may follow, and the replacement character itself is longer than a byte.
  rw [(decode_eq_nil_iff rest).mp silent] at whole
  cases congrArg List.length whole

theorem outside_begins_nothing (part : Bytes) (more : Nat) (low high byte : UInt8) (code : Nat)
    (underway : Underway part more low high code) (outside : ¬ (low ≤ byte ∧ byte ≤ high)) :
    ¬ Begins (part ++ [byte]) := by
  rintro ⟨c, rest, whole⟩
  rw [List.append_assoc, List.singleton_append] at whole
  have read := decode_char c
  rw [← whole, underway.read, decode_outside more low high byte code rest outside] at read
  have silent := (List.cons.inj read).2
  cases (decode_eq_nil_iff _).mp silent

theorem underway_written (part : Bytes) (more : Nat) (low high byte : UInt8) (code n : Nat)
    (underway : Underway part more low high code) (inside : low ≤ byte ∧ byte ≤ high)
    (number : n / 64 ^ more = code * 64 + byte.toNat % 64) :
    String.utf8EncodeChar (Char.ofNat n) = part ++ byte :: tailBytes more n := by
  obtain ⟨least, greatest⟩ := inside
  rw [UInt8.le_iff_toNat_le] at least greatest
  have above := underway.above
  have below := underway.below
  have digit : n / 64 ^ more % 64 + 0x80 = byte.toNat := by omega
  rw [underway.written n (by omega) (by omega) (by omega), tailBytes, digit, UInt8.ofNat_toNat]

theorem underway_next (part : Bytes) (more : Nat) (low high byte : UInt8) (code : Nat)
    (underway : Underway part (more + 1) low high code) (inside : low ≤ byte ∧ byte ≤ high) :
    Underway (part ++ [byte]) more 0x80 0xBF (code * 64 + byte.toNat % 64) where
  begun := List.append_ne_nil_of_left_ne_nil underway.begun _
  above := Nat.le_refl _
  below := Nat.le_refl _
  ordered := by decide
  read rest := by
    rw [List.append_assoc, underway.read, List.singleton_append, decode_cons,
      step_inside (more + 1) low high byte code inside]
    rfl
  written n number _ _ := by
    have shifted : n / 64 ^ (more + 1) = code * 64 + byte.toNat % 64 := by
      rw [Nat.pow_succ, ← Nat.div_div_eq_div_mul, number]
    rw [underway_written part (more + 1) low high byte code n underway inside shifted, List.append_assoc]
    rfl

theorem underway_completed (part : Bytes) (more : Nat) (low high : UInt8) (code : Nat)
    (underway : Underway part more low high code) :
    ∃ c byte tail, String.utf8EncodeChar c = part ++ byte :: tail := by
  have inside : low ≤ low ∧ low ≤ high := ⟨UInt8.le_refl low, UInt8.le_iff_toNat_le.mpr underway.ordered⟩
  have number : (code * 64 + low.toNat % 64) * 64 ^ more / 64 ^ more = code * 64 + low.toNat % 64 :=
    Nat.mul_div_cancel _ (Nat.pow_pos (by decide))
  exact ⟨_, low, _, underway_written part more low high low code _ underway inside number⟩

theorem underway_begins (part : Bytes) (more : Nat) (low high : UInt8) (code : Nat)
    (underway : Underway part more low high code) : Begins part := by
  obtain ⟨c, byte, tail, whole⟩ := underway_completed part more low high code underway
  exact ⟨c, byte :: tail, whole.symm⟩

theorem underway_unfinished (part : Bytes) (more : Nat) (low high : UInt8) (code : Nat)
    (underway : Underway part more low high code) (c : Char) : ¬ String.utf8EncodeChar c <+: part := by
  rintro ⟨between, rfl⟩
  obtain ⟨d, byte, tail, whole⟩ := underway_completed _ more low high code underway
  have read := decode_char d
  rw [whole, List.append_assoc, decode, decode_char_append] at read
  have silent := (List.cons.inj read).2
  have nothing := (decode_eq_nil_iff _).mp silent
  simp at nothing

theorem inside_cases (part : Bytes) (more : Nat) (low high byte : UInt8) (code : Nat)
    (underway : Underway part more low high code) :
    (∃ c, step (.inside more low high code) byte = ([c], .between) ∧
      String.utf8EncodeChar c = part ++ [byte]) ∨
    (∃ more' low' high' code', step (.inside more low high code) byte = ([], .inside more' low' high' code') ∧
      Underway (part ++ [byte]) more' low' high' code') ∨
    (step (.inside more low high code) byte = (replacement :: (start byte).1, (start byte).2) ∧
      ¬ Begins (part ++ [byte])) := by
  by_cases inside : low ≤ byte ∧ byte ≤ high
  · rw [step_inside more low high byte code inside]
    cases more with
    | zero =>
      refine .inl ⟨_, rfl, ?_⟩
      exact underway_written part 0 low high byte code _ underway inside (Nat.div_one _)
    | succ more => exact .inr (.inl ⟨_, _, _, _, rfl, underway_next part more low high byte code underway inside⟩)
  · exact .inr (.inr ⟨step_outside more low high byte code inside,
      outside_begins_nothing part more low high byte code underway inside⟩)

end SeriesCell.Utf8
