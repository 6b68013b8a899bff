import SeriesCell.Proofs.Hexadecimal
import SeriesCell.Proofs.Quoting
import SeriesCell.Proofs.Underway
import SeriesCell.Text.Radix

/- Which texts are hexadecimal, and what a text that is not is refused for. Bytes are judged in pairs from
   the front, so the first pair with anything but digits decides, wherever characters begin and end. -/
namespace SeriesCell.Hex

def row : List Char := "0123456789abcdef".toList

def IsDigit (byte : UInt8) : Prop := (Char.ofNat byte.toNat).toLower ∈ row

instance (byte : UInt8) : Decidable (IsDigit byte) := inferInstanceAs (Decidable (_ ∈ row))

def place (byte : UInt8) : Nat := row.idxOf (Char.ofNat byte.toNat).toLower

def worth (pair : UInt8 × UInt8) : UInt8 := UInt8.ofNat (16 * place pair.1 + place pair.2)

def flatten (parts : List (UInt8 × UInt8)) : Bytes := parts.flatMap fun pair => [pair.1, pair.2]

theorem digit_value_eq (byte : UInt8) :
    digitValue? byte = if IsDigit byte then some (place byte) else none := by
  have table : ∀ n < 256, digitValue? (UInt8.ofNat n) =
      if IsDigit (UInt8.ofNat n) then some (place (UInt8.ofNat n)) else none := by decide +kernel
  have entry := table byte.toNat byte.toNat_lt
  rwa [UInt8.ofNat_toNat] at entry

theorem char_of_byte (byte : UInt8) : (Char.ofNat byte.toNat).toNat = byte.toNat := by
  have bound := byte.toNat_lt
  exact Utf8.to_nat_of_nat byte.toNat (.inl (by omega))

theorem place_lt (byte : UInt8) (isDigit : IsDigit byte) : place byte < 16 :=
  List.idxOf_lt_length_of_mem isDigit

theorem digit_place (byte : UInt8) (isDigit : IsDigit byte) :
    digit (place byte) = (Char.ofNat byte.toNat).toLower := by
  have written : ∀ i : Fin 16, digit i = row[i] := by decide
  have bound := place_lt byte isDigit
  exact (written ⟨place byte, bound⟩).trans (List.getElem_idxOf bound)

theorem digit_ascii (byte : UInt8) (isDigit : IsDigit byte) : byte.toNat < 128 := by
  have ascii := ascii_of_lower_case _ (place byte) (place_lt byte isDigit) (digit_place byte isDigit).symm
  rwa [char_of_byte] at ascii

theorem digit_not_sign (byte : UInt8) (isDigit : IsDigit byte) : Char.ofNat byte.toNat ≠ '+' := by
  intro sign
  rw [IsDigit, sign] at isDigit
  exact absurd isDigit (by decide)

theorem worth_to_nat (pair : UInt8 × UInt8) (first : IsDigit pair.1) (second : IsDigit pair.2) :
    (worth pair).toNat = 16 * place pair.1 + place pair.2 := by
  have high := place_lt pair.1 first
  have low := place_lt pair.2 second
  exact byte_to_nat _ (by omega)

theorem read_pair_digits (pair : UInt8 × UInt8) (first : IsDigit pair.1) (second : IsDigit pair.2) :
    readPair pair = .ok (worth pair) := by
  simp only [readPair, worth, digit_value_eq, if_pos first, if_pos second, Nat.mul_comm 16]

theorem read_pair_other (pair : UInt8 × UInt8) (other : ¬ (IsDigit pair.1 ∧ IsDigit pair.2)) :
    readPair pair = .error (.badPair pair.1 pair.2) := by
  by_cases first : IsDigit pair.1
  · have second : ¬ IsDigit pair.2 := fun also => other ⟨first, also⟩
    simp only [readPair, digit_value_eq, if_pos first, if_neg second]
  · simp only [readPair, digit_value_eq, if_neg first]

theorem pairs_flatten (parts : List (UInt8 × UInt8)) : pairs (flatten parts) = some parts := by
  induction parts with
  | nil => rfl
  | cons pair rest ih =>
    change (pairs (flatten rest)).map ((pair.1, pair.2) :: ·) = some (pair :: rest)
    rw [ih]
    rfl

theorem flatten_of_even (b : Bytes) (even : b.length % 2 = 0) : ∃ parts, b = flatten parts := by
  fun_induction pairs b with
  | case1 => exact ⟨[], rfl⟩
  | case2 => cases even
  | case3 first second rest ih =>
    rw [List.length_cons, List.length_cons] at even
    obtain ⟨parts, rfl⟩ := ih (by omega)
    exact ⟨(first, second) :: parts, rfl⟩

theorem pairs_none_of_odd (b : Bytes) (odd : b.length % 2 = 1) : pairs b = none := by
  cases paired : pairs b with
  | none => rfl
  | some parts =>
    have even := length_of_pairs b parts paired
    omega

theorem flatten_append (before after : List (UInt8 × UInt8)) :
    flatten (before ++ after) = flatten before ++ flatten after := List.flatMap_append

theorem length_flatten (parts : List (UInt8 × UInt8)) : (flatten parts).length = 2 * parts.length :=
  length_of_pairs _ parts (pairs_flatten parts)

theorem flatten_digits (parts : List (UInt8 × UInt8)) :
    (∀ byte ∈ flatten parts, IsDigit byte) ↔ ∀ pair ∈ parts, IsDigit pair.1 ∧ IsDigit pair.2 := by
  simp only [flatten, List.forall_mem_flatMap, List.forall_mem_cons, List.not_mem_nil, false_implies,
    implies_true, and_true]

theorem flatten_at (parts : List (UInt8 × UInt8)) (i : Nat) :
    (flatten parts)[2 * i]? = parts[i]?.map Prod.fst ∧
    (flatten parts)[2 * i + 1]? = parts[i]?.map Prod.snd := by
  induction parts generalizing i with
  | nil => exact ⟨rfl, rfl⟩
  | cons pair rest ih =>
    cases i with
    | zero => exact ⟨rfl, rfl⟩
    | succ i => exact ih i

theorem read_pairs_digits (parts : List (UInt8 × UInt8))
    (digits : ∀ pair ∈ parts, IsDigit pair.1 ∧ IsDigit pair.2) :
    readPairs parts = .ok (parts.map worth) := by
  induction parts with
  | nil => rfl
  | cons pair rest ih =>
    obtain ⟨own, others⟩ := List.forall_mem_cons.mp digits
    simp only [readPairs, read_pair_digits pair own.1 own.2, ih others, List.map_cons]

theorem read_pairs_stops (before after : List (UInt8 × UInt8)) (pair : UInt8 × UInt8)
    (digits : ∀ other ∈ before, IsDigit other.1 ∧ IsDigit other.2)
    (stop : ¬ (IsDigit pair.1 ∧ IsDigit pair.2)) :
    readPairs (before ++ pair :: after) = .error (.badPair pair.1 pair.2) := by
  induction before with
  | nil => simp only [List.nil_append, readPairs, read_pair_other pair stop]
  | cons first before ih =>
    obtain ⟨own, others⟩ := List.forall_mem_cons.mp digits
    simp only [List.cons_append, readPairs, read_pair_digits first own.1 own.2, ih others]

theorem pairs_span (parts : List (UInt8 × UInt8)) :
    (∀ pair ∈ parts, IsDigit pair.1 ∧ IsDigit pair.2) ∨
    ∃ before pair after, parts = before ++ pair :: after ∧
      (∀ other ∈ before, IsDigit other.1 ∧ IsDigit other.2) ∧ ¬ (IsDigit pair.1 ∧ IsDigit pair.2) := by
  induction parts with
  | nil => exact .inl (by simp)
  | cons pair rest ih =>
    by_cases own : IsDigit pair.1 ∧ IsDigit pair.2
    · rcases ih with all | ⟨before, other, after, rfl, digits, stop⟩
      · exact .inl (List.forall_mem_cons.mpr ⟨own, all⟩)
      · exact .inr ⟨pair :: before, other, after, rfl, List.forall_mem_cons.mpr ⟨own, digits⟩, stop⟩
    · exact .inr ⟨[], pair, rest, rfl, by simp, own⟩

theorem encode_ascii_bytes (b : Bytes) (ascii : ∀ byte ∈ b, byte.toNat < 128) :
    Utf8.encode (b.map fun byte => Char.ofNat byte.toNat) = b := by
  have chars : ∀ c ∈ b.map fun byte => Char.ofNat byte.toNat, c.toNat < 128 := by
    intro c member
    obtain ⟨byte, within, rfl⟩ := List.mem_map.mp member
    rw [char_of_byte]
    exact ascii byte within
  have back : ∀ byte : UInt8, UInt8.ofNat (Char.ofNat byte.toNat).toNat = byte := by
    intro byte
    rw [char_of_byte, UInt8.ofNat_toNat]
  rw [Utf8.encode_all_ascii _ chars, List.map_map]
  exact List.map_id'' back b

theorem decode_ascii_bytes (b : Bytes) (ascii : ∀ byte ∈ b, byte.toNat < 128) :
    Utf8.decode b = b.map fun byte => Char.ofNat byte.toNat := by
  have read := Utf8.decode_encode (b.map fun byte => Char.ofNat byte.toNat)
  rwa [encode_ascii_bytes b ascii] at read

theorem read_odd (text : List Char) (odd : (Utf8.encode text).length % 2 = 1) :
    read text = .error (.oddLength text) := by
  simp only [read, pairs_none_of_odd _ odd]

theorem read_flatten (text : List Char) (parts : List (UInt8 × UInt8))
    (bytes : Utf8.encode text = flatten parts) : read text = readPairs parts := by
  simp only [read, bytes, pairs_flatten]

theorem write_digits (parts : List (UInt8 × UInt8))
    (digits : ∀ pair ∈ parts, IsDigit pair.1 ∧ IsDigit pair.2) :
    write (parts.map worth) =
      (flatten parts).map fun byte => (Char.ofNat byte.toNat).toLower := by
  induction parts with
  | nil => rfl
  | cons pair rest ih =>
    obtain ⟨⟨first, second⟩, others⟩ := List.forall_mem_cons.mp digits
    have high := place_lt pair.1 first
    have low := place_lt pair.2 second
    have number := worth_to_nat pair first second
    have quotient : (16 * place pair.1 + place pair.2) / 16 = place pair.1 := by omega
    have remainder : (16 * place pair.1 + place pair.2) % 16 = place pair.2 := by omega
    rw [List.map_cons, write_cons, number, quotient, remainder, ih others, digit_place pair.1 first,
      digit_place pair.2 second]
    rfl

theorem write_of_read (text : List Char) (parts : List (UInt8 × UInt8))
    (bytes : Utf8.encode text = flatten parts) (digits : ∀ pair ∈ parts, IsDigit pair.1 ∧ IsDigit pair.2) :
    write (parts.map worth) = text.map Char.toLower := by
  have ascii := fun byte member => digit_ascii byte ((flatten_digits parts).mpr digits byte member)
  have chars := Utf8.decode_encode text
  rw [bytes, decode_ascii_bytes _ ascii] at chars
  rw [write_digits parts digits, ← chars, List.map_map]
  rfl

theorem read_written (b : Bytes) : read (write b) = .ok b := by
  apply read_typed
  exact (List.map_congr_left fun c member => (write_lower_case b c member).2).trans (List.map_id' _)

def FirstOther (text : List Char) (x y : UInt8) : Prop :=
  ∃ before after, Utf8.encode text = before ++ x :: y :: after ∧ before.length % 2 = 0 ∧
    (∀ byte ∈ before, IsDigit byte) ∧ ¬ (IsDigit x ∧ IsDigit y)

theorem read_digits (text : List Char) (even : (Utf8.encode text).length % 2 = 0)
    (digits : ∀ byte ∈ Utf8.encode text, IsDigit byte) :
    ∃ parts, Utf8.encode text = flatten parts ∧ (∀ pair ∈ parts, IsDigit pair.1 ∧ IsDigit pair.2) ∧
      read text = .ok (parts.map worth) := by
  obtain ⟨parts, bytes⟩ := flatten_of_even _ even
  rw [bytes] at digits
  have each := (flatten_digits parts).mp digits
  exact ⟨parts, bytes, each, (read_flatten text parts bytes).trans (read_pairs_digits parts each)⟩

theorem read_first_other (text : List Char) (x y : UInt8) (even : (Utf8.encode text).length % 2 = 0)
    (first : FirstOther text x y) : read text = .error (.badPair x y) := by
  obtain ⟨before, after, bytes, aligned, digits, stop⟩ := first
  have ends : after.length % 2 = 0 := by
    rw [bytes, List.length_append, List.length_cons, List.length_cons] at even
    omega
  obtain ⟨parts, rfl⟩ := flatten_of_even before aligned
  obtain ⟨others, rfl⟩ := flatten_of_even after ends
  have whole : Utf8.encode text = flatten (parts ++ (x, y) :: others) := by
    rw [bytes, flatten_append]
    rfl
  exact (read_flatten text _ whole).trans
    (read_pairs_stops parts others (x, y) ((flatten_digits parts).mp digits) stop)

theorem digits_or_first_other (text : List Char) (even : (Utf8.encode text).length % 2 = 0) :
    (∀ byte ∈ Utf8.encode text, IsDigit byte) ∨ ∃ x y, FirstOther text x y := by
  obtain ⟨parts, bytes⟩ := flatten_of_even _ even
  rcases pairs_span parts with all | ⟨before, ⟨x, y⟩, after, rfl, digits, stop⟩
  · left
    rw [bytes]
    exact (flatten_digits parts).mpr all
  · right
    refine ⟨x, y, flatten before, flatten after, ?_, ?_, (flatten_digits before).mpr digits, stop⟩
    · rw [bytes, flatten_append]
      rfl
    · rw [length_flatten]
      exact Nat.mul_mod_right 2 _

theorem read_ok_iff (text : List Char) :
    (∃ b, read text = .ok b) ↔
      (Utf8.encode text).length % 2 = 0 ∧ ∀ byte ∈ Utf8.encode text, IsDigit byte := by
  constructor
  · rintro ⟨b, result⟩
    rcases Nat.mod_two_eq_zero_or_one (Utf8.encode text).length with even | odd
    · refine ⟨even, ?_⟩
      rcases digits_or_first_other text even with digits | ⟨x, y, first⟩
      · exact digits
      · cases (read_first_other text x y even first).symm.trans result
    · cases (read_odd text odd).symm.trans result
  · rintro ⟨even, digits⟩
    obtain ⟨parts, -, -, result⟩ := read_digits text even digits
    exact ⟨_, result⟩

theorem read_error_iff (text : List Char) (e : Error) :
    read text = .error e ↔
      ((Utf8.encode text).length % 2 = 1 ∧ e = .oddLength text) ∨
      ((Utf8.encode text).length % 2 = 0 ∧ ∃ x y, FirstOther text x y ∧ e = .badPair x y) := by
  constructor
  · intro result
    rcases Nat.mod_two_eq_zero_or_one (Utf8.encode text).length with even | odd
    · rcases digits_or_first_other text even with digits | ⟨x, y, first⟩
      · obtain ⟨parts, -, -, taken⟩ := read_digits text even digits
        cases taken.symm.trans result
      · have refused := read_first_other text x y even first
        exact .inr ⟨even, x, y, first, Except.error.inj (result.symm.trans refused)⟩
    · exact .inl ⟨odd, Except.error.inj (result.symm.trans (read_odd text odd))⟩
  · rintro (⟨odd, rfl⟩ | ⟨even, x, y, first, rfl⟩)
    · exact read_odd text odd
    · exact read_first_other text x y even first

structure Reads (text : List Char) (b : Bytes) : Prop where
  half : 2 * b.length = (Utf8.encode text).length
  lowered : write b = text.map Char.toLower
  values : ∀ i (bound : i < b.length), ∃ x y,
    (Utf8.encode text)[2 * i]? = some x ∧ (Utf8.encode text)[2 * i + 1]? = some y ∧
    b[i].toNat = 16 * place x + place y

theorem read_reads (text : List Char) (b : Bytes) (result : read text = .ok b) : Reads text b := by
  obtain ⟨even, digits⟩ := (read_ok_iff text).mp ⟨b, result⟩
  obtain ⟨parts, bytes, each, taken⟩ := read_digits text even digits
  cases taken.symm.trans result
  refine ⟨?_, write_of_read text parts bytes each, ?_⟩
  · rw [List.length_map, bytes, length_flatten]
  · intro i bound
    rw [List.length_map] at bound
    obtain ⟨first, second⟩ := flatten_at parts i
    rw [List.getElem?_eq_getElem bound] at first second
    obtain ⟨high, low⟩ := each parts[i] (List.getElem_mem bound)
    refine ⟨parts[i].1, parts[i].2, ?_, ?_, ?_⟩
    · rw [bytes, first]
      rfl
    · rw [bytes, second]
      rfl
    · rw [List.getElem_map]
      exact worth_to_nat parts[i] high low

theorem char_value_digit (byte : UInt8) (isDigit : IsDigit byte) :
    charValue? (Char.ofNat byte.toNat) = some (place byte) := by
  simp only [charValue?, char_of_byte, if_pos (digit_ascii byte isDigit), UInt8.ofNat_toNat, digit_value_eq,
    if_pos isDigit]

theorem read_number_unsigned (first second : Char) (unsigned : first ≠ '+') :
    readNumber [first, second] = readNumberFrom 0 [first, second] := by
  unfold readNumber
  split
  · rename_i empty
    cases empty
  · rename_i sign
    cases sign
  · rename_i sign
    cases sign
  · rename_i digits signed
    exact absurd (List.cons.inj signed).1 unsigned
  · rfl

-- The check leaves no sign to allow, and two digits fit in a byte.
theorem read_number_digits (x y : UInt8) (first : IsDigit x) (second : IsDigit y) :
    readNumber [Char.ofNat x.toNat, Char.ofNat y.toNat] = .ok (16 * place x + place y) := by
  have high := place_lt x first
  have low := place_lt y second
  have one : ¬ 0xff < place x := by omega
  have two : ¬ 0xff < 16 * place x + place y := by omega
  rw [read_number_unsigned _ _ (digit_not_sign x first)]
  simp only [readNumberFrom, char_value_digit x first, char_value_digit y second, Nat.zero_mul, Nat.zero_add,
    if_neg one, Nat.mul_comm (place x), if_neg two]

theorem strict_digits (x y : UInt8) (first : IsDigit x) (second : IsDigit y) :
    Utf8.strict? [x, y] = some [Char.ofNat x.toNat, Char.ofNat y.toNat] := by
  have ascii : ∀ byte ∈ [x, y], byte.toNat < 128 := by
    simp only [List.forall_mem_cons, List.not_mem_nil, false_implies, implies_true, and_true]
    exact ⟨digit_ascii x first, digit_ascii y second⟩
  have read := decode_ascii_bytes [x, y] ascii
  have written := encode_ascii_bytes [x, y] ascii
  rw [Utf8.strict?, read, if_pos written]
  rfl

theorem digit_value_some (byte : UInt8) : (digitValue? byte).isSome ↔ IsDigit byte := by
  rw [digit_value_eq]
  split
  · rename_i isDigit
    exact iff_of_true rfl isDigit
  · rename_i other
    exact iff_of_false Bool.false_ne_true other

theorem check_pair_eq (pair : UInt8 × UInt8) : checkPair pair = (readPair pair).mapError .refused := by
  simp only [checkPair, digit_value_some]
  by_cases digits : IsDigit pair.1 ∧ IsDigit pair.2
  · obtain ⟨first, second⟩ := digits
    rw [if_pos ⟨first, second⟩, read_pair_digits pair first second]
    simp only [strict_digits _ _ first second, read_number_digits _ _ first second]
    rfl
  · rw [if_neg digits, read_pair_other pair digits]
    rfl

example : readNumber ['+', 'f'] = .ok 15 ∧
    checkPair (0x2b, 0x66) = .error (.refused (.badPair 0x2b 0x66)) := ⟨rfl, rfl⟩

theorem read_stepwise_eq (text : List Char) : readStepwise text = (read text).mapError .refused := by
  have steps : ∀ parts, parts.mapM checkPair = (readPairs parts).mapError .refused := by
    intro parts
    induction parts with
    | nil => rfl
    | cons pair rest ih =>
      rw [List.mapM_cons, ih, check_pair_eq, readPairs]
      cases readPair pair with
      | error e => rfl
      | ok byte =>
        cases readPairs rest with
        | error e => rfl
        | ok bytes => rfl
  rw [readStepwise, read]
  cases pairs (Utf8.encode text) with
  | none => rfl
  | some parts => exact steps parts

theorem hexadecimal_texts :
    (∀ b, (write b).length = 2 * b.length ∧ (∀ c ∈ write b, c ∈ row) ∧ read (write b) = .ok b) ∧
    (∀ text, (∃ b, read text = .ok b) ↔
      (Utf8.encode text).length % 2 = 0 ∧ ∀ byte ∈ Utf8.encode text, IsDigit byte) ∧
    (∀ text b, read text = .ok b → Reads text b) ∧
    (∀ text e, read text = .error e ↔
      ((Utf8.encode text).length % 2 = 1 ∧ e = .oddLength text) ∨
      ((Utf8.encode text).length % 2 = 0 ∧ ∃ x y, FirstOther text x y ∧ e = .badPair x y)) ∧
    (∀ text, (Error.oddLength text).message = "odd number of hex digits in " ++ quote text) ∧
    (∀ x y, (Error.badPair x y).message = "invalid hex byte " ++ quote (Utf8.decode [x, y])) ∧
    (∀ text, unquote (quote text) = some text ∧ ∀ c ∈ (quote text).toList, isUnprintable c = false) ∧
    (∀ text, text.all needsNoEscape = true → quote text = "\"" ++ String.ofList text ++ "\"") ∧
    ∀ text, readStepwise text = (read text).mapError .refused :=
  ⟨fun b => ⟨length_write b, fun c member => (write_lower_case b c member).1, read_written b⟩,
    read_ok_iff, read_reads, read_error_iff, fun _ => rfl, fun _ _ => rfl,
    fun text => ⟨unquote_quote text, quote_printable text⟩, quote_plain, read_stepwise_eq⟩

-- Letters of both cases, a text of an odd length with a quote and a line in it, and a character of two bytes
-- whose first is paired with the digit before it.
theorem both_cases_and_cut_character :
    read "0aFf".toList = .ok [0x0a, 0xff] ∧ Reads "0aFf".toList [0x0a, 0xff] ∧
    read "abc".toList = .error (.oddLength "abc".toList) ∧
    (Error.oddLength "abc".toList).message = "odd number of hex digits in \"abc\"" ∧
    (Error.oddLength ['"', '\n', '0']).message = "odd number of hex digits in \"\\\"\\n0\"" ∧
    read "1é2".toList = .error (.badPair 0x31 0xc3) ∧
    (Error.badPair 0x31 0xc3).message = "invalid hex byte \"1\ufffd\"" := by
  have result : read "0aFf".toList = .ok [0x0a, 0xff] := rfl
  have cut : Utf8.encode "1é2".toList = [] ++ 0x31 :: 0xc3 :: [0xa9, 0x32] := by decide
  have first : FirstOther "1é2".toList 0x31 0xc3 :=
    ⟨[], [0xa9, 0x32], cut, rfl, fun _ member => absurd member List.not_mem_nil, by decide⟩
  have broken : Utf8.decode [0x31, 0xc3] = ['1', '\ufffd'] := by decide
  obtain ⟨_, _, reads, refused, odd, bad, _, plain, _⟩ := hexadecimal_texts
  refine ⟨result, reads _ _ result, (refused _ _).mpr (.inl ⟨by decide, rfl⟩), ?_, ?_,
    (refused _ _).mpr (.inr ⟨by decide, 0x31, 0xc3, first, rfl⟩), ?_⟩
  · rw [odd, plain "abc".toList (by decide +kernel)]
    decide
  · rw [odd]
    decide +kernel
  · rw [bad, broken, plain ['1', '\ufffd'] (by decide +kernel)]
    decide

end SeriesCell.Hex
