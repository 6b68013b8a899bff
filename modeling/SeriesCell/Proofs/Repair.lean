import SeriesCell.Proofs.Sameness
import SeriesCell.Proofs.Underway

/- Bytes read as text. What spells characters is read as these characters. Between them lie broken
   parts, each as long as some character begins with it, and each part is read as one replacement
   character. -/
namespace SeriesCell.Utf8

structure MaximalSubpart (part b : Bytes) : Prop where
  nonempty : part ≠ []
  starts : part <+: b
  broken : ∀ c, ¬ String.utf8EncodeChar c <+: b
  begins : Begins part ∨ part.length = 1
  longest : ∀ other, other <+: b → Begins other → other.length ≤ part.length

inductive Repaired : Bytes → List Char → Prop where
  | nil : Repaired [] []
  | char (c : Char) (rest : Bytes) (text : List Char) (more : Repaired rest text) :
      Repaired (String.utf8EncodeChar c ++ rest) (c :: text)
  | broken (part rest : Bytes) (text : List Char) (subpart : MaximalSubpart part (part ++ rest))
      (more : Repaired rest text) : Repaired (part ++ rest) (replacement :: text)

def Stands (part : Bytes) : State → Prop
  | .between => part = []
  | .inside more low high code => Underway part more low high code

theorem begins_shortened (part whole : Bytes) (starts : part <+: whole) (begins : Begins whole) :
    Begins part := by
  obtain ⟨c, within⟩ := begins
  exact ⟨c, starts.trans within⟩

theorem longer_start (part rest other : Bytes) (byte : UInt8) (starts : other <+: part ++ byte :: rest)
    (longer : part.length < other.length) : part ++ [byte] <+: other := by
  apply List.prefix_of_prefix_length_le _ starts
  · rw [List.length_append, List.length_singleton]
    exact longer
  · exact ⟨rest, by rw [List.append_assoc, List.singleton_append]⟩

theorem single_maximal (byte : UInt8) (rest : Bytes) (nothing : ¬ Begins [byte]) :
    MaximalSubpart [byte] (byte :: rest) where
  nonempty := List.cons_ne_nil _ _
  starts := ⟨rest, rfl⟩
  broken := by
    intro c within
    have first : [byte] <+: byte :: rest := ⟨rest, rfl⟩
    have shorter := List.length_pos_iff.mpr (encode_char_ne_nil c)
    exact nothing ⟨c, List.prefix_of_prefix_length_le first within shorter⟩
  begins := .inr rfl
  longest := by
    intro other starts begins
    apply Nat.le_of_not_lt
    intro longer
    have first : [byte] <+: byte :: rest := ⟨rest, rfl⟩
    have within := List.prefix_of_prefix_length_le first starts (Nat.le_of_lt longer)
    exact nothing (begins_shortened _ _ within begins)

theorem underway_maximal (part rest : Bytes) (byte : UInt8) (more : Nat) (low high : UInt8) (code : Nat)
    (underway : Underway part more low high code) (nothing : ¬ Begins (part ++ [byte])) :
    MaximalSubpart part (part ++ byte :: rest) where
  nonempty := underway.begun
  starts := List.prefix_append _ _
  broken := by
    intro c within
    by_cases longer : part.length < (String.utf8EncodeChar c).length
    · exact nothing ⟨c, longer_start part rest _ byte within longer⟩
    · apply underway_unfinished part more low high code underway c
      exact List.prefix_of_prefix_length_le within (List.prefix_append _ _) (Nat.le_of_not_lt longer)
  begins := .inl (underway_begins part more low high code underway)
  longest := by
    intro other starts begins
    apply Nat.le_of_not_lt
    intro longer
    exact nothing (begins_shortened _ _ (longer_start part rest other byte starts longer) begins)

theorem cut_maximal (part : Bytes) (more : Nat) (low high : UInt8) (code : Nat)
    (underway : Underway part more low high code) : MaximalSubpart part part where
  nonempty := underway.begun
  starts := List.prefix_refl part
  broken := underway_unfinished part more low high code underway
  begins := .inl (underway_begins part more low high code underway)
  longest _ starts _ := starts.length_le

theorem repaired_from_start (byte : UInt8) (rest : Bytes)
    (later : ∀ part state, Stands part state → Repaired (part ++ rest) (decodeFrom state rest)) :
    Repaired (byte :: rest) (decode (byte :: rest)) := by
  rw [decode_started]
  rcases start_cases byte with ⟨ascii, read⟩ | ⟨more, low, high, code, read, underway⟩ | astray
  · rw [read]
    have written := encode_char_one byte.toNat ascii
    rw [UInt8.ofNat_toNat] at written
    have char := Repaired.char (Char.ofNat byte.toNat) rest _ (later [] .between rfl)
    rwa [written] at char
  · rw [read]
    exact later [byte] _ underway
  · rw [astray]
    exact .broken [byte] rest _ (single_maximal byte rest (astray_begins_nothing byte astray))
      (later [] .between rfl)

-- By the bytes still to be read. A byte that does not go on with a character is read again as the first
-- after it, so the case of a first byte comes first.
theorem repaired_from (b part : Bytes) (state : State) (stands : Stands part state) :
    Repaired (part ++ b) (decodeFrom state b) := by
  induction b generalizing part state with
  | nil =>
    cases state with
    | between =>
      cases stands
      exact .nil
    | inside more low high code =>
      rw [List.append_nil]
      have cut := cut_maximal part more low high code stands
      have broken := Repaired.broken part [] [] (by rwa [List.append_nil]) .nil
      rwa [List.append_nil] at broken
  | cons byte rest ih =>
    have fresh := repaired_from_start byte rest ih
    cases state with
    | between =>
      cases stands
      exact fresh
    | inside more low high code =>
      have together : part ++ byte :: rest = (part ++ [byte]) ++ rest := by
        rw [List.append_assoc, List.singleton_append]
      rcases inside_cases part more low high byte code stands with
        ⟨c, read, written⟩ | ⟨more', low', high', code', read, underway⟩ | ⟨read, nothing⟩
      · rw [decode_cons, read, together, ← written]
        exact .char c rest _ (ih [] .between rfl)
      · rw [decode_cons, read, together]
        exact ih (part ++ [byte]) _ underway
      · rw [decode_cons, read]
        have subpart := underway_maximal part rest byte more low high code stands nothing
        exact .broken part (byte :: rest) _ subpart fresh

theorem repaired_decode (b : Bytes) : Repaired b (decode b) := repaired_from b [] .between rfl

theorem maximal_unique (part other b : Bytes) (first : MaximalSubpart part b)
    (second : MaximalSubpart other b) :
    other = part := by
  have bound : ∀ x y, MaximalSubpart x b → MaximalSubpart y b → y.length ≤ x.length := by
    intro x y left right
    rcases right.begins with begins | single
    · exact left.longest y right.starts begins
    · rw [single]
      exact List.length_pos_iff.mpr left.nonempty
  have same := Nat.le_antisymm (bound part other first second) (bound other part second first)
  exact (List.prefix_of_prefix_length_le second.starts first.starts (Nat.le_of_eq same)).eq_of_length same

theorem repaired_unique (b : Bytes) (text other : List Char) (first : Repaired b text)
    (second : Repaired b other) : other = text := by
  induction first generalizing other with
  | nil =>
    generalize nothing : ([] : Bytes) = b at second
    cases second with
    | nil => rfl
    | char c rest text more => exact absurd (List.append_eq_nil_iff.mp nothing.symm).1 (encode_char_ne_nil c)
    | broken part rest text subpart more =>
      exact absurd (List.append_eq_nil_iff.mp nothing.symm).1 subpart.nonempty
  | char c rest text more ih =>
    generalize bytes : String.utf8EncodeChar c ++ rest = b at second
    cases second with
    | nil => exact absurd (List.append_eq_nil_iff.mp bytes).1 (encode_char_ne_nil c)
    | char d left others followed =>
      have read := congrArg decode bytes
      rw [decode, decode, decode_char_append, decode_char_append] at read
      obtain ⟨rfl, _⟩ := List.cons.inj read
      rw [List.append_cancel_left bytes] at ih
      rw [ih others followed]
    | broken part left others subpart followed => exact absurd ⟨rest, bytes⟩ (subpart.broken c)
  | broken part rest text subpart more ih =>
    generalize bytes : part ++ rest = b at second subpart
    cases second with
    | nil => exact absurd (List.append_eq_nil_iff.mp bytes).1 subpart.nonempty
    | char d left others followed => exact absurd (List.prefix_append _ left) (subpart.broken d)
    | broken second left others also followed =>
      have same := maximal_unique part second _ subpart also
      subst same
      rw [List.append_cancel_left bytes] at ih
      rw [ih others followed]

theorem repaired_iff (b : Bytes) (text : List Char) : Repaired b text ↔ decode b = text :=
  ⟨fun repaired => repaired_unique b text _ repaired (repaired_decode b),
    fun read => read ▸ repaired_decode b⟩

theorem repaired_length (b : Bytes) (text : List Char) (repaired : Repaired b text) :
    text.length ≤ b.length := by
  induction repaired with
  | nil => exact Nat.le_refl 0
  | char c rest text more ih =>
    have nonempty := List.length_pos_iff.mpr (encode_char_ne_nil c)
    rw [List.length_cons, List.length_append]
    omega
  | broken part rest text subpart more ih =>
    have nonempty := List.length_pos_iff.mpr subpart.nonempty
    rw [List.length_cons, List.length_append]
    omega

theorem repaired_whole (b : Bytes) (text : List Char) (repaired : Repaired b text)
    (whole : replacement ∉ text) : b = encode text := by
  induction repaired with
  | nil => rfl
  | char c rest text more ih =>
    rw [encode_cons, ← ih fun member => whole (List.mem_cons_of_mem c member)]
  | broken part rest text subpart more ih => exact absurd List.mem_cons_self whole

theorem decode_encode_append (text : List Char) (rest : Bytes) :
    decode (encode text ++ rest) = text ++ decode rest := by
  induction text with
  | nil => rfl
  | cons c text ih =>
    rw [encode_cons, List.append_assoc, decode, decode_char_append]
    exact congrArg (List.cons c) ih

theorem first_byte_outside (part : Bytes) (more : Nat) (low high byte : UInt8) (code : Nat)
    (underway : Underway part more low high code) (begins : Begins [byte]) : ¬ (low ≤ byte ∧ byte ≤ high) := by
  rintro ⟨least, greatest⟩
  rw [UInt8.le_iff_toNat_le] at least greatest
  have above := underway.above
  have below := underway.below
  have whole : UInt8.ofNat byte.toNat = byte := UInt8.ofNat_toNat
  obtain ⟨tail, follows⟩ := Nat.exists_eq_add_of_le' (Nat.le_trans above least)
  rw [follows] at whole
  have astray := start_tail tail (by omega)
  rw [whole] at astray
  exact astray_begins_nothing byte astray begins

theorem start_stands (byte : UInt8) : ∃ part, Stands part (start byte).2 := by
  rcases start_cases byte with ⟨_, read⟩ | ⟨more, low, high, code, read, underway⟩ | astray
  · exact ⟨[], by rw [read]; rfl⟩
  · exact ⟨[byte], by rw [read]; exact underway⟩
  · exact ⟨[], by rw [astray]; rfl⟩

theorem step_stands (byte : UInt8) (part : Bytes) (state : State) (stands : Stands part state) :
    ∃ next, Stands next (step state byte).2 := by
  cases state with
  | between => exact start_stands byte
  | inside more low high code =>
    rcases inside_cases part more low high byte code stands with
      ⟨c, read, _⟩ | ⟨more', low', high', code', read, underway⟩ | ⟨read, _⟩
    · exact ⟨[], by rw [read]; rfl⟩
    · exact ⟨part ++ [byte], by rw [read]; exact underway⟩
    · rw [read]
      exact start_stands byte

theorem decode_resumes (a part : Bytes) (state : State) (c : Char) (b : Bytes) (stands : Stands part state) :
    decodeFrom state (a ++ (String.utf8EncodeChar c ++ b)) = decodeFrom state a ++ c :: decode b := by
  induction a generalizing part state with
  | nil =>
    rw [List.nil_append]
    cases state with
    | between => exact decode_char_append c b
    | inside more low high code =>
      have read := decode_char_append c b
      obtain ⟨byte, tail, same⟩ := List.exists_cons_of_ne_nil (encode_char_ne_nil c)
      have begins : Begins [byte] := ⟨c, tail, same.symm⟩
      rw [same] at read ⊢
      rw [List.cons_append, decode_outside more low high byte code (tail ++ b)
        (first_byte_outside part more low high byte code stands begins)]
      exact congrArg (List.cons replacement) read
  | cons byte rest ih =>
    obtain ⟨part', later⟩ := step_stands byte part state stands
    rw [List.cons_append, decode_cons, decode_cons, ih part' _ later, List.append_assoc]

theorem decode_around (a b : Bytes) (text : List Char) (nonempty : text ≠ []) :
    decode (a ++ encode text ++ b) = decode a ++ text ++ decode b := by
  obtain ⟨c, others, rfl⟩ := List.exists_cons_of_ne_nil nonempty
  rw [encode_cons, List.append_assoc, List.append_assoc, decode,
    decode_resumes a [] .between c (encode others ++ b) rfl, decode_encode_append, List.append_assoc]
  rfl

end SeriesCell.Utf8

namespace SeriesCell

theorem of_binary_read (b : Bytes) (short : b.length < 0x8000000000000000) :
    (Cell.decode (Cell.ofBinary b).encode.value).value = .ok (Cell.ofBinary b) ∧
    (Cell.decodeNullable (Cell.ofBinary b).encode.value).value = .ok (Cell.ofBinary b) :=
  ⟨decode_encode_holding (.text b) short, decode_nullable_encode (.holding (.text b)) short⟩

theorem reading_repairs :
    (∀ s : List Char, (Cell.ofBinary (Utf8.encode s)).text = s ∧
      (Cell.ofText s).same (Cell.ofBinary (Utf8.encode s)) = true ∧
      (Cell.ofText s).encode.value = (Cell.ofBinary (Utf8.encode s)).encode.value) ∧
    (∀ (a b : Bytes) (s : List Char), s ≠ [] → (Cell.ofBinary (a ++ Utf8.encode s ++ b)).text =
      (Cell.ofBinary a).text ++ s ++ (Cell.ofBinary b).text) ∧
    (∀ b : Bytes, (Cell.ofBinary (Utf8.encode (Cell.ofBinary b).text)).text = (Cell.ofBinary b).text) ∧
    (∀ b : Bytes, Utf8.replacement ∉ (Cell.ofBinary b).text →
      b.toByteArray.IsValidUTF8 ∧ b = Utf8.encode (Cell.ofBinary b).text) ∧
    (∀ (b : Bytes) (text : List Char), (Cell.ofBinary b).text = text ↔ Utf8.Repaired b text) ∧
    (∀ b : Bytes, (Cell.ofBinary b).text.length ≤ b.length) ∧
    ∀ b : Bytes, (Cell.ofBinary b).bytes = b ∧ (b.length < 0x8000000000000000 →
      (Cell.decode (Cell.ofBinary b).encode.value).value = .ok (Cell.ofBinary b) ∧
      (Cell.decodeNullable (Cell.ofBinary b).encode.value).value = .ok (Cell.ofBinary b)) := by
  refine ⟨?_, ?_, ?_, ?_, ?_, ?_, ?_⟩
  · intro s
    exact ⟨Utf8.decode_encode s, same_equivalence.refl _, rfl⟩
  · intro a b s nonempty
    exact Utf8.decode_around a b s nonempty
  · intro b
    exact Utf8.decode_encode (Utf8.decode b)
  · intro b whole
    have written := Utf8.repaired_whole b _ (Utf8.repaired_decode b) whole
    exact ⟨⟨Utf8.decode b, congrArg List.toByteArray written⟩, written⟩
  · intro b text
    exact (Utf8.repaired_iff b text).symm
  · intro b
    exact Utf8.repaired_length b _ (Utf8.repaired_decode b)
  · intro b
    exact ⟨rfl, of_binary_read b⟩

theorem letter_between_broken_parts :
    (Cell.ofBinary [0x61, 0xE2, 0x82, 0xC3, 0xA9, 0xED, 0xA0, 0x80, 0xF0, 0x9F]).text =
      ['a', '\uFFFD', 'é', '\uFFFD', '\uFFFD', '\uFFFD', '\uFFFD'] ∧
    ([0x61, 0xC3, 0xA9] : Bytes).toByteArray.IsValidUTF8 ∧
    (Cell.decode (Cell.ofBinary [0xED, 0xA0, 0x80]).encode.value).value =
      .ok (.ofBinary [0xED, 0xA0, 0x80]) := by
  obtain ⟨_, around, _, whole, _, _, stored⟩ := reading_repairs
  have before : (Cell.ofBinary [0x61, 0xE2, 0x82]).text = ['a', '\uFFFD'] := by decide
  have after : (Cell.ofBinary [0xED, 0xA0, 0x80, 0xF0, 0x9F]).text =
      ['\uFFFD', '\uFFFD', '\uFFFD', '\uFFFD'] := by decide
  refine ⟨?_, (whole [0x61, 0xC3, 0xA9] (by decide)).1, ((stored [0xED, 0xA0, 0x80]).2 (by decide)).1⟩
  have read := around [0x61, 0xE2, 0x82] [0xED, 0xA0, 0x80, 0xF0, 0x9F] ['é'] (List.cons_ne_nil _ _)
  rw [before, after] at read
  exact read

end SeriesCell
