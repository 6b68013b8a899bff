import SeriesCell.Protobuf.Element

/- Which bytes spell a number or a key, said without the readers: a number may be padded, up to ten
   bytes. The readers take exactly one spelling off the front of their input, and what the writers
   write is a spelling. -/
namespace SeriesCell

inductive Septets : Bytes → Nat → Prop where
  | last (byte : UInt8) (clear : byte.toNat < 128) : Septets [byte] byte.toNat
  | more (byte : UInt8) (tail : Bytes) (high : Nat) (set : 128 ≤ byte.toNat)
      (rest : Septets tail high) : Septets (byte :: tail) (byte.toNat - 128 + 128 * high)

structure SpelledNumber (b : Bytes) (n : Nat) : Prop where
  septets : Septets b n
  short : b.length ≤ 10
  tenth : ∀ byte, b[9]? = some byte → byte.toNat ≤ 1

structure SpelledKey (b : Bytes) (key : Key) : Prop where
  number : SpelledNumber b key.code
  bound : key.code ≤ 0xFFFFFFFF
  named : key.tag ≠ 0

theorem septets_length_pos (b : Bytes) (n : Nat) (septets : Septets b n) : 0 < b.length := by
  cases septets with
  | last byte clear => simp
  | more byte tail high set rest => simp

theorem spelled_key_length_pos (b : Bytes) (key : Key) (spelled : SpelledKey b key) : 0 < b.length :=
  septets_length_pos b key.code spelled.number.septets

theorem read_within_sound (limit n : Nat) (b rest : Bytes)
    (read : Varint.readWithin (limit + 1) b = some (n, rest)) :
    ∃ a, b = a ++ rest ∧ Septets a n ∧ a.length ≤ limit + 1 ∧
      ∀ byte, a[limit]? = some byte → byte.toNat ≤ 1 := by
  induction limit generalizing b n with
  | zero =>
    cases b with
    | nil => simp [Varint.readWithin] at read
    | cons byte tail =>
      by_cases clear : byte.toNat < 128
      · simp only [Varint.readWithin, if_pos clear, true_and] at read
        by_cases large : 1 < byte.toNat
        · simp [large] at read
        · simp only [if_neg large, Option.some.injEq, Prod.mk.injEq] at read
          obtain ⟨rfl, rfl⟩ := read
          refine ⟨[byte], rfl, .last byte clear, by simp, ?_⟩
          intro found same
          cases same
          omega
      · simp [Varint.readWithin, clear] at read
  | succ limit ih =>
    cases b with
    | nil => simp [Varint.readWithin] at read
    | cons byte tail =>
      rw [Varint.readWithin] at read
      by_cases clear : byte.toNat < 128
      · simp only [if_pos clear, Nat.add_eq_zero_iff, Nat.one_ne_zero, and_false, false_and, if_false,
          Option.some.injEq, Prod.mk.injEq] at read
        obtain ⟨rfl, rfl⟩ := read
        exact ⟨[byte], rfl, .last byte clear, by simp, by simp⟩
      · rw [if_neg clear] at read
        cases inner : Varint.readWithin (limit + 1) tail with
        | none => simp [inner] at read
        | some found =>
          obtain ⟨high, after⟩ := found
          simp only [inner, Option.some.injEq, Prod.mk.injEq] at read
          obtain ⟨rfl, rfl⟩ := read
          obtain ⟨a, split, septets, short, full⟩ := ih high tail inner
          exact ⟨byte :: a, by rw [split]; rfl, .more byte a high (Nat.le_of_not_lt clear) septets,
            by simpa using short, by simpa using full⟩

theorem read_within_complete (a rest : Bytes) (n limit : Nat) (septets : Septets a n)
    (short : a.length ≤ limit + 1) (full : ∀ byte, a[limit]? = some byte → byte.toNat ≤ 1) :
    Varint.readWithin (limit + 1) (a ++ rest) = some (n, rest) := by
  induction septets generalizing limit with
  | last byte clear =>
    have kept : ¬ (limit = 0 ∧ 1 < byte.toNat) := by
      rintro ⟨rfl, large⟩
      have small := full byte rfl
      omega
    simp only [List.cons_append, List.nil_append, Varint.readWithin, if_pos clear, if_neg kept]
  | more byte tail high set more ih =>
    have nonempty := septets_length_pos tail high more
    cases limit with
    | zero =>
      rw [List.length_cons] at short
      omega
    | succ limit =>
      rw [List.cons_append, Varint.readWithin, if_neg (by omega),
        ih limit (by simpa using short) (by simpa using full)]

theorem varint_read_iff (n : Nat) (b rest : Bytes) :
    Varint.read b = some (n, rest) ↔ ∃ a, b = a ++ rest ∧ SpelledNumber a n := by
  constructor
  · intro read
    obtain ⟨a, split, septets, short, tenth⟩ := read_within_sound 9 n b rest read
    exact ⟨a, split, septets, short, tenth⟩
  · rintro ⟨a, rfl, septets, short, tenth⟩
    exact read_within_complete a rest n 9 septets short tenth

theorem septets_bound (b : Bytes) (n limit : Nat) (septets : Septets b n) (short : b.length ≤ limit + 1)
    (full : ∀ byte, b[limit]? = some byte → byte.toNat ≤ 1) : n < 2 <<< (7 * limit) := by
  induction septets generalizing limit with
  | last byte clear =>
    cases limit with
    | zero =>
      have small := full byte rfl
      simp only [Nat.mul_zero, Nat.shiftLeft_zero]
      omega
    | succ limit =>
      have positive := Nat.two_pow_pos (7 * limit)
      simp only [Nat.shiftLeft_eq, Nat.mul_succ, Nat.pow_add]
      omega
  | more byte tail high set more ih =>
    have nonempty := septets_length_pos tail high more
    cases limit with
    | zero =>
      rw [List.length_cons] at short
      omega
    | succ limit =>
      have bound := ih limit (by simpa using short) (by simpa using full)
      have byteBound := byte.toNat_lt
      simp only [Nat.shiftLeft_eq, Nat.mul_succ, Nat.pow_add] at bound ⊢
      omega

theorem spelled_number_bound (b : Bytes) (n : Nat) (spelled : SpelledNumber b n) :
    n < 0x10000000000000000 :=
  septets_bound b n 9 spelled.septets spelled.short spelled.tenth

-- That the writer's spelling is short enough comes out of reading it back.
theorem varint_write_spelled (n : Nat) (bound : n < 0x10000000000000000) :
    SpelledNumber (Varint.write n) n := by
  obtain ⟨a, split, spelled⟩ := (varint_read_iff n _ []).mp (Varint.read_write n [] bound)
  rw [List.append_nil, List.append_nil] at split
  exact split ▸ spelled

theorem septets_write (n : Nat) : Septets (Varint.write n) n := by
  induction n using Nat.strongRecOn with
  | ind n ih =>
    rw [Varint.write]
    by_cases single : n < 128
    · rw [if_pos single]
      have byte := byte_to_nat n (by omega)
      have last := Septets.last (UInt8.ofNat n) (by omega)
      rwa [byte] at last
    · rw [if_neg single]
      have byte := byte_to_nat (n % 128 + 128) (by omega)
      have more := Septets.more (UInt8.ofNat (n % 128 + 128)) _ (n / 128) (by omega) (ih (n / 128) (by omega))
      have whole : n % 128 + 128 - 128 + 128 * (n / 128) = n := by omega
      rwa [byte, whole] at more

theorem septets_unique (a b rest more : Bytes) (m n : Nat) (left : Septets a m) (right : Septets b n)
    (same : a ++ rest = b ++ more) : m = n := by
  induction left generalizing b n with
  | last byte clear =>
    cases right with
    | last other _ => rw [(List.cons.inj same).1]
    | more other tail high set _ =>
      have first : byte = other := (List.cons.inj same).1
      subst first
      omega
  | more byte tail high set _ ih =>
    cases right with
    | last other clear =>
      have first : byte = other := (List.cons.inj same).1
      subst first
      omega
    | more other followed upper _ septets =>
      obtain ⟨rfl, tails⟩ := List.cons.inj same
      rw [ih followed upper septets tails]

-- A number of any size is written, but the reader has no more than 64 bits for it.
theorem large_number_unread (n : Nat) (rest : Bytes) (large : 0x10000000000000000 ≤ n) :
    Varint.read (Varint.write n ++ rest) = none := by
  cases read : Varint.read (Varint.write n ++ rest) with
  | none => rfl
  | some found =>
    obtain ⟨m, after⟩ := found
    obtain ⟨a, split, spelled⟩ := (varint_read_iff m _ after).mp read
    have bound := spelled_number_bound a m spelled
    rw [septets_unique _ a rest after n m (septets_write n) spelled.septets split] at large
    omega

theorem wire_type_of_code_iff (code : Nat) (type : WireType) :
    WireType.ofCode? code = some type ↔ type.code = code := by
  constructor
  · intro found
    unfold WireType.ofCode? at found
    split at found <;> cases found <;> rfl
  · rintro rfl
    exact WireType.of_code_code type

theorem key_read_iff (key : Key) (b rest : Bytes) :
    Key.read b = .ok (key, rest) ↔ ∃ a, b = a ++ rest ∧ SpelledKey a key := by
  have small := key.type.code_lt
  constructor
  · intro read
    rw [Key.read] at read
    cases number : Varint.read b with
    | none => simp [number] at read
    | some found =>
      obtain ⟨n, after⟩ := found
      obtain ⟨a, split, spelled⟩ := (varint_read_iff n b after).mp number
      by_cases large : 0xFFFFFFFF < n
      · simp [number, large] at read
      · simp only [number, if_neg large] at read
        cases typed : WireType.ofCode? (n % 8) with
        | none => simp [typed] at read
        | some type =>
          have code := (wire_type_of_code_iff (n % 8) type).mp typed
          by_cases zero : n / 8 = 0
          · simp [typed, zero] at read
          · simp only [typed, if_neg zero, Except.ok.injEq, Prod.mk.injEq] at read
            obtain ⟨rfl, rfl⟩ := read
            have whole : Key.code ⟨n / 8, type⟩ = n := by
              simp only [Key.code]
              omega
            exact ⟨a, split, whole.symm ▸ spelled, by omega, zero⟩
  · rintro ⟨a, rfl, number, bound, named⟩
    have type : key.code % 8 = key.type.code := by rw [Key.code]; omega
    have tag : key.code / 8 = key.tag := by rw [Key.code]; omega
    have read := (varint_read_iff key.code (a ++ rest) rest).mpr ⟨a, rfl, number⟩
    simp only [Key.read, read, if_neg (Nat.not_lt.mpr bound), type, tag, WireType.of_code_code,
      if_neg named]

theorem key_write_spelled (key : Key) (named : key.tag ≠ 0) (bound : key.code ≤ 0xFFFFFFFF) :
    SpelledKey key.write key :=
  ⟨varint_write_spelled key.code (by omega), bound, named⟩

end SeriesCell
