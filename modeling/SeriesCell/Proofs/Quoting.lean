import Mathlib.Data.Nat.Init
import SeriesCell.Text.Quoted

/- Quoted text is read back by a reader that is no part of the program, shows nothing unprintable, and
   shows text as it is where there is nothing to escape. -/
namespace SeriesCell

inductive Reading where
  | plain
  | escaped
  | opening
  | code (n : Nat)

def letters : List (Char × Char) :=
  [('"', '"'), ('\\', '\\'), ('t', '\t'), ('n', '\n'), ('r', '\r'), ('0', '\x00')]

def hexDigits : List Char := "0123456789abcdef".toList

def unquoteFrom : Reading → List Char → Option (List Char)
  | _, [] => none
  | .plain, c :: rest =>
    if c = '\\' then unquoteFrom .escaped rest
    else if c = '"' then if rest.isEmpty then some [] else none
    else (unquoteFrom .plain rest).map (c :: ·)
  | .escaped, c :: rest =>
    if c = 'u' then unquoteFrom .opening rest
    else
      match letters.lookup c with
      | some meant => (unquoteFrom .plain rest).map (meant :: ·)
      | none => none
  | .opening, c :: rest => if c = '\x7b' then unquoteFrom (.code 0) rest else none
  | .code n, c :: rest =>
    if c = '\x7d' then (unquoteFrom .plain rest).map (Char.ofNat n :: ·)
    else if c ∈ hexDigits then unquoteFrom (.code (16 * n + hexDigits.idxOf c)) rest
    else none

def unquote (shown : String) : Option (List Char) :=
  match shown.toList with
  | '"' :: rest => unquoteFrom .plain rest
  | _ => none

theorem unquote_digit (n value : Nat) (rest : List Char) (small : value < 16) :
    unquoteFrom (.code n) (Nat.digitChar value :: rest) = unquoteFrom (.code (16 * n + value)) rest := by
  have table : ∀ value < 16, Nat.digitChar value ≠ '\x7d' ∧ Nat.digitChar value ∈ hexDigits ∧
      hexDigits.idxOf (Nat.digitChar value) = value := by decide
  obtain ⟨inside, digit, place⟩ := table value small
  rw [unquoteFrom, if_neg inside, if_pos digit, place]

theorem unquote_digits (n : Nat) (rest : List Char) :
    unquoteFrom (.code 0) (Nat.toDigits 16 n ++ rest) = unquoteFrom (.code n) rest := by
  induction n using Nat.strongRecOn generalizing rest with
  | ind n ih =>
    by_cases single : n < 16
    · rw [Nat.toDigits_of_lt_base single, List.singleton_append, unquote_digit 0 n rest single,
        Nat.mul_zero, Nat.zero_add]
    · have digit : n % 16 < 16 := Nat.mod_lt n (by decide)
      rw [Nat.toDigits_of_base_le (by decide) (Nat.le_of_not_lt single), List.append_assoc,
        ih (n / 16) (by omega), List.singleton_append, unquote_digit _ _ _ digit, Nat.div_add_mod]

theorem escape_cases (c : Char) :
    (∃ letter, (letter, c) ∈ letters ∧ escape c = ['\\', letter]) ∨
    (isUnprintable c = true ∧ escape c = ['\\', 'u', '\x7b'] ++ Nat.toDigits 16 c.toNat ++ ['\x7d']) ∨
    (c ≠ '"' ∧ c ≠ '\\' ∧ isUnprintable c = false ∧ escape c = [c]) := by
  by_cases mark : c = '"'
  · exact .inl ⟨'"', by rw [mark]; decide, by rw [mark]; rfl⟩
  by_cases backslash : c = '\\'
  · exact .inl ⟨'\\', by rw [backslash]; decide, by rw [backslash]; rfl⟩
  by_cases tab : c = '\t'
  · exact .inl ⟨'t', by rw [tab]; decide, by rw [tab]; rfl⟩
  by_cases line : c = '\n'
  · exact .inl ⟨'n', by rw [line]; decide, by rw [line]; rfl⟩
  by_cases carriage : c = '\r'
  · exact .inl ⟨'r', by rw [carriage]; decide, by rw [carriage]; rfl⟩
  by_cases zero : c = '\x00'
  · exact .inl ⟨'0', by rw [zero]; decide, by rw [zero]; rfl⟩
  rw [escape, if_neg mark, if_neg backslash, if_neg tab, if_neg line, if_neg carriage, if_neg zero]
  by_cases hidden : isUnprintable c
  · exact .inr (.inl ⟨hidden, if_pos hidden⟩)
  · exact .inr (.inr ⟨mark, backslash, Bool.eq_false_iff.mpr hidden, if_neg hidden⟩)

theorem letters_read (letter meant : Char) (listed : (letter, meant) ∈ letters) :
    letter ≠ 'u' ∧ letters.lookup letter = some meant ∧ isUnprintable letter = false := by
  have table : ∀ entry ∈ letters, entry.1 ≠ 'u' ∧ letters.lookup entry.1 = some entry.2 ∧
      isUnprintable entry.1 = false := by decide +kernel
  exact table (letter, meant) listed

theorem unquote_escape (c : Char) (rest : List Char) :
    unquoteFrom .plain (escape c ++ rest) = (unquoteFrom .plain rest).map (c :: ·) := by
  rcases escape_cases c with ⟨letter, listed, spelled⟩ | ⟨_, spelled⟩ | ⟨mark, backslash, _, spelled⟩
  · obtain ⟨other, means, _⟩ := letters_read letter c listed
    rw [spelled, List.cons_append, List.singleton_append, unquoteFrom, if_pos rfl, unquoteFrom, if_neg other,
      means]
  · rw [spelled, List.append_assoc, List.append_assoc]
    simp only [List.cons_append, List.nil_append]
    rw [unquoteFrom, if_pos rfl, unquoteFrom, if_pos rfl, unquoteFrom, if_pos rfl, unquote_digits,
      unquoteFrom, if_pos rfl, Char.ofNat_toNat]
  · rw [spelled, List.singleton_append, unquoteFrom, if_neg backslash, if_neg mark]

theorem unquote_quote (text : List Char) : unquote (quote text) = some text := by
  have inside : ∀ text, unquoteFrom .plain (text.flatMap escape ++ ['"']) = some text := by
    intro text
    induction text with
    | nil => rfl
    | cons c rest ih => rw [List.flatMap_cons, List.append_assoc, unquote_escape, ih, Option.map_some]
  rw [unquote, quote, String.toList_ofList]
  exact inside text

theorem digits_printable (n : Nat) : ∀ c ∈ Nat.toDigits 16 n, isUnprintable c = false := by
  have table : ∀ value < 16, isUnprintable (Nat.digitChar value) = false := by decide +kernel
  induction n using Nat.strongRecOn with
  | ind n ih =>
    by_cases single : n < 16
    · rw [Nat.toDigits_of_lt_base single, List.forall_mem_singleton]
      exact table n single
    · rw [Nat.toDigits_of_base_le (by decide) (Nat.le_of_not_lt single), List.forall_mem_append,
        List.forall_mem_singleton]
      exact ⟨ih (n / 16) (by omega), table _ (Nat.mod_lt n (by decide))⟩

theorem escape_printable (c : Char) : ∀ shown ∈ escape c, isUnprintable shown = false := by
  have marks : isUnprintable '\\' = false ∧ isUnprintable 'u' = false ∧ isUnprintable '\x7b' = false ∧
      isUnprintable '\x7d' = false := by decide +kernel
  obtain ⟨backslash, unicode, opening, closing⟩ := marks
  rcases escape_cases c with ⟨letter, listed, spelled⟩ | ⟨_, spelled⟩ | ⟨_, _, printable, spelled⟩
  · obtain ⟨_, _, printable⟩ := letters_read letter c listed
    rw [spelled, List.forall_mem_cons, List.forall_mem_singleton]
    exact ⟨backslash, printable⟩
  · rw [spelled]
    simp only [List.forall_mem_append, List.forall_mem_cons, List.not_mem_nil, false_implies, implies_true,
      and_true]
    exact ⟨⟨⟨backslash, unicode, opening⟩, digits_printable c.toNat⟩, closing⟩
  · rw [spelled, List.forall_mem_singleton]
    exact printable

theorem quote_printable (text : List Char) : ∀ c ∈ (quote text).toList, isUnprintable c = false := by
  have mark : isUnprintable '"' = false := by decide +kernel
  rw [quote, String.toList_ofList, List.cons_append]
  rw [List.forall_mem_cons, List.forall_mem_append, List.forall_mem_singleton]
  refine ⟨mark, ?_, mark⟩
  intro shown member
  obtain ⟨c, _, escaped⟩ := List.mem_flatMap.mp member
  exact escape_printable c shown escaped

def needsNoEscape (c : Char) : Bool := c != '"' && c != '\\' && !isUnprintable c

theorem escape_plain (c : Char) (plain : needsNoEscape c = true) : escape c = [c] := by
  have controls : ∀ entry ∈ letters, needsNoEscape entry.2 = false := by decide +kernel
  rcases escape_cases c with ⟨letter, listed, _⟩ | ⟨hidden, _⟩ | ⟨_, _, _, shown⟩
  · rw [controls (letter, c) listed] at plain
    cases plain
  · simp [needsNoEscape, hidden] at plain
  · exact shown

theorem quote_plain (text : List Char) (plain : text.all needsNoEscape = true) :
    quote text = "\"" ++ String.ofList text ++ "\"" := by
  have inside : text.flatMap escape = text := by
    induction text with
    | nil => rfl
    | cons c rest ih =>
      rw [List.all_cons, Bool.and_eq_true] at plain
      rw [List.flatMap_cons, escape_plain c plain.1, ih plain.2, List.singleton_append]
  apply String.toList_inj.mp
  simp only [quote, inside, String.toList_append, String.toList_ofList]
  rfl

end SeriesCell
