import SeriesCell.Message.Decoding
import SeriesCell.Proofs.Numbers
import SeriesCell.Proofs.Skipping

/- The records that messages are made of. A record sets a field, or has a tag of no field and is
   complete but without effect. Reading a record takes exactly one record off the front. -/
namespace SeriesCell

inductive FieldBody : Value → Bytes → Prop where
  | text (count bytes : Bytes) (number : SpelledNumber count bytes.length) :
      FieldBody (.text bytes) (count ++ bytes)
  | integer (b : Bytes) (n : Nat) (v : Int64) (number : SpelledNumber b n) (meaning : Signed n v.toInt) :
      FieldBody (.integer v) b
  | timestamp (b : Bytes) (n : Nat) (v : Int64) (number : SpelledNumber b n) (meaning : Signed n v.toInt) :
      FieldBody (.timestamp v) b
  | boolean (b : Bytes) (n : Nat) (number : SpelledNumber b n) : FieldBody (.boolean (n != 0)) b
  | float (b : Bytes) (v : Double) (size : b.length = 8) (meaning : v.bits.toNat = b.weight) :
      FieldBody (.float v) b

inductive Record (limit : Nat) : Bytes → Option Value → Prop where
  | field (v : Value) (opening body : Bytes) (spelled : SpelledKey opening v.kind.key)
      (value : FieldBody v body) : Record limit (opening ++ body) (some v)
  | unknown (key : Key) (opening body : Bytes) (foreign : ∀ kind : Kind, kind.tag ≠ key.tag)
      (spelled : SpelledKey opening key) (skipped : SkippedBody limit 1 key body) :
      Record limit (opening ++ body) none

inductive Records (limit : Nat) : Bytes → List (Option Value) → Prop where
  | nil : Records limit [] []
  | cons (first rest : Bytes) (v : Option Value) (others : List (Option Value))
      (record : Record limit first v) (more : Records limit rest others) :
      Records limit (first ++ rest) (v :: others)

theorem records_append (limit : Nat) (a b : Bytes) (before after : List (Option Value))
    (left : Records limit a before) (right : Records limit b after) :
    Records limit (a ++ b) (before ++ after) := by
  induction left with
  | nil => exact right
  | cons first rest v others record more ih =>
    rw [List.append_assoc, List.cons_append]
    exact .cons first (rest ++ b) v (others ++ after) record ih

theorem records_single (limit : Nat) (b : Bytes) (v : Option Value) (record : Record limit b v) :
    Records limit b [v] := by
  simpa using Records.cons b [] v [] record .nil

theorem record_deeper (limit deeper : Nat) (allowed : limit ≤ deeper) (b : Bytes) (v : Option Value)
    (record : Record limit b v) : Record deeper b v := by
  cases record with
  | field v opening body spelled value => exact .field v opening body spelled value
  | unknown key opening body foreign spelled skipped =>
    exact .unknown key opening body foreign spelled
      (skipped_body_deeper limit deeper allowed 1 key body skipped)

theorem records_deeper (limit deeper : Nat) (allowed : limit ≤ deeper) (b : Bytes)
    (records : List (Option Value)) (parsed : Records limit b records) : Records deeper b records := by
  induction parsed with
  | nil => exact .nil
  | cons first rest v others record _ ih =>
    exact .cons first rest v others (record_deeper limit deeper allowed first v record) ih

theorem kind_of_tag_iff (tag : Nat) (kind : Kind) : Kind.ofTag? tag = some kind ↔ kind.tag = tag := by
  constructor
  · intro found
    unfold Kind.ofTag? at found
    split at found <;> cases found <;> rfl
  · rintro rfl
    cases kind <;> rfl

theorem foreign_tag_iff (tag : Nat) : Kind.ofTag? tag = none ↔ ∀ kind : Kind, kind.tag ≠ tag := by
  constructor
  · intro absent kind same
    simp [(kind_of_tag_iff tag kind).mpr same] at absent
  · intro foreign
    cases found : Kind.ofTag? tag with
    | none => rfl
    | some kind => exact absurd ((kind_of_tag_iff tag kind).mp found) (foreign kind)

theorem read_number_sound (value : Nat → Value) (v : Value) (b rest : Bytes)
    (read : (match Varint.read b with
      | some (n, after) => Except.ok (value n, after)
      | none => .error Defect.badVarint) = Except.ok (v, rest)) :
    ∃ a n, b = a ++ rest ∧ SpelledNumber a n ∧ v = value n := by
  cases number : Varint.read b with
  | none => simp [number] at read
  | some pair =>
    obtain ⟨n, after⟩ := pair
    simp only [number, Except.ok.injEq, Prod.mk.injEq] at read
    obtain ⟨rfl, rfl⟩ := read
    obtain ⟨a, split, spelled⟩ := (varint_read_iff n b after).mp number
    exact ⟨a, n, split, spelled, rfl⟩

theorem signed_of_spelled (b : Bytes) (n : Nat) (number : SpelledNumber b n) :
    Signed n (Int64.ofInt (ZigZag.decode n)).toInt := by
  rw [int64_of_decode n (spelled_number_bound b n number)]
  exact signed_decode n

theorem int64_of_signed (n : Nat) (v : Int64) (meaning : Signed n v.toInt) :
    Int64.ofInt (ZigZag.decode n) = v := by
  rw [decode_of_signed n v.toInt meaning, Int64.ofInt_toInt]

theorem read_body_sound (kind : Kind) (v : Value) (b rest : Bytes)
    (read : Value.readBody kind b = .ok (v, rest)) :
    v.kind = kind ∧ ∃ a, b = a ++ rest ∧ FieldBody v a := by
  cases kind with
  | text =>
    cases number : Varint.read b with
    | none => simp [Value.readBody, number] at read
    | some pair =>
      obtain ⟨n, after⟩ := pair
      obtain ⟨count, split, spelled⟩ := (varint_read_iff n b after).mp number
      cases parts : after.split? n with
      | none => simp [Value.readBody, number, parts] at read
      | some halves =>
        obtain ⟨bytes, left⟩ := halves
        simp only [Value.readBody, number, parts, Except.ok.injEq, Prod.mk.injEq] at read
        obtain ⟨rfl, rfl⟩ := read
        obtain ⟨inner, rfl⟩ := (bytes_split_iff n after bytes left).mp parts
        exact ⟨rfl, count ++ bytes, by rw [split, inner, List.append_assoc], .text count bytes spelled⟩
  | integer =>
    obtain ⟨a, n, split, spelled, rfl⟩ :=
      read_number_sound (fun n => .integer (Int64.ofInt (ZigZag.decode n))) v b rest read
    exact ⟨rfl, a, split, .integer a n _ spelled (signed_of_spelled a n spelled)⟩
  | timestamp =>
    obtain ⟨a, n, split, spelled, rfl⟩ :=
      read_number_sound (fun n => .timestamp (Int64.ofInt (ZigZag.decode n))) v b rest read
    exact ⟨rfl, a, split, .timestamp a n _ spelled (signed_of_spelled a n spelled)⟩
  | boolean =>
    obtain ⟨a, n, split, spelled, rfl⟩ := read_number_sound (fun n => .boolean (n != 0)) v b rest read
    exact ⟨rfl, a, split, .boolean a n spelled⟩
  | float =>
    cases parts : b.split? 8 with
    | none => simp [Value.readBody, parts] at read
    | some halves =>
      obtain ⟨bytes, after⟩ := halves
      simp only [Value.readBody, parts, Except.ok.injEq, Prod.mk.injEq] at read
      obtain ⟨rfl, rfl⟩ := read
      obtain ⟨split, size⟩ := (bytes_split_iff 8 b bytes after).mp parts
      exact ⟨rfl, bytes, split, .float bytes _ size (word_weight bytes size)⟩

theorem read_body_complete (v : Value) (a rest : Bytes) (value : FieldBody v a) :
    Value.readBody v.kind (a ++ rest) = .ok (v, rest) := by
  cases value with
  | text count bytes number =>
    rw [List.append_assoc]
    simp only [Value.kind, Value.readBody,
      (varint_read_iff _ _ (bytes ++ rest)).mpr ⟨count, rfl, number⟩, Bytes.split?_append]
  | integer _ n v number meaning =>
    simp only [Value.kind, Value.readBody, (varint_read_iff n _ rest).mpr ⟨a, rfl, number⟩,
      int64_of_signed n v meaning]
  | timestamp _ n v number meaning =>
    simp only [Value.kind, Value.readBody, (varint_read_iff n _ rest).mpr ⟨a, rfl, number⟩,
      int64_of_signed n v meaning]
  | boolean _ n number =>
    simp only [Value.kind, Value.readBody, (varint_read_iff n _ rest).mpr ⟨a, rfl, number⟩]
  | float _ v size meaning =>
    have word : UInt64.ofNat (LittleEndian.read a) = v.bits :=
      UInt64.toNat_inj.mp ((word_weight a size).trans meaning.symm)
    simp only [Value.kind, Value.readBody, (bytes_split_iff 8 _ a rest).mpr ⟨rfl, size⟩, word]

theorem read_record_sound (limit : Nat) (v : Option Value) (b rest : Bytes)
    (read : readRecord limit b = .ok (v, rest)) : ∃ a, b = a ++ rest ∧ Record limit a v := by
  rw [readRecord] at read
  cases keyRead : Key.read b with
  | error defect => simp [keyRead] at read
  | ok pair =>
    obtain ⟨key, body⟩ := pair
    obtain ⟨opening, split, spelled⟩ := (key_read_iff key b body).mp keyRead
    simp only [keyRead] at read
    cases known : Kind.ofTag? key.tag with
    | none =>
      cases skipped : skip limit key body with
      | error defect => simp [known, skipped] at read
      | ok after =>
        simp only [known, skipped, Except.ok.injEq, Prod.mk.injEq] at read
        obtain ⟨rfl, rfl⟩ := read
        obtain ⟨inner, same, element⟩ := (skip_iff limit key body after).mp skipped
        exact ⟨opening ++ inner, by rw [split, same, List.append_assoc],
          .unknown key opening inner ((foreign_tag_iff key.tag).mp known) spelled element⟩
    | some kind =>
      by_cases typed : key.type = kind.wireType
      · simp only [known, if_pos typed] at read
        cases found : Value.readBody kind body with
        | error defect => simp [found] at read
        | ok pair =>
          obtain ⟨w, after⟩ := pair
          simp only [found, Except.ok.injEq, Prod.mk.injEq] at read
          obtain ⟨rfl, rfl⟩ := read
          obtain ⟨rfl, inner, same, value⟩ := read_body_sound kind w body after found
          have own : key = w.kind.key := by
            obtain ⟨tag, type⟩ := key
            rw [Kind.key, (kind_of_tag_iff tag w.kind).mp known, ← typed]
          exact ⟨opening ++ inner, by rw [split, same, List.append_assoc],
            .field w opening inner (own ▸ spelled) value⟩
      · simp [known, typed] at read

theorem read_record_complete (limit : Nat) (v : Option Value) (a rest : Bytes)
    (record : Record limit a v) : readRecord limit (a ++ rest) = .ok (v, rest) := by
  cases record with
  | field v opening body spelled value =>
    rw [List.append_assoc]
    have key := (key_read_iff _ _ (body ++ rest)).mpr ⟨opening, rfl, spelled⟩
    have known := (kind_of_tag_iff v.kind.key.tag v.kind).mpr rfl
    have typed : v.kind.key.type = v.kind.wireType := rfl
    simp only [readRecord, key, known, if_pos typed, read_body_complete v body rest value]
  | unknown key opening body foreign spelled skipped =>
    rw [List.append_assoc]
    have read := (key_read_iff key _ (body ++ rest)).mpr ⟨opening, rfl, spelled⟩
    have after := (skip_iff limit key _ rest).mpr ⟨body, rfl, skipped⟩
    simp only [readRecord, read, (foreign_tag_iff key.tag).mpr foreign, after]

theorem records_of_read (limit : Nat) (b rest : Bytes) (v : Option Value) (others : List (Option Value))
    (read : readRecord limit b = .ok (v, rest)) (more : Records limit rest others) :
    Records limit b (v :: others) := by
  obtain ⟨a, rfl, record⟩ := read_record_sound limit v b rest read
  exact .cons a rest v others record more

theorem record_length_pos (limit : Nat) (b : Bytes) (v : Option Value) (record : Record limit b v) :
    0 < b.length := by
  have read := read_record_complete limit v b [] record
  simpa using read_record_shorter read

-- The reader is a function, so bytes start with at most one record.
theorem record_unique (limit : Nat) (a b rest more : Bytes) (v w : Option Value)
    (left : Record limit a v) (right : Record limit b w) (same : a ++ rest = b ++ more) :
    v = w ∧ rest = more := by
  have first := read_record_complete limit v a rest left
  have second := read_record_complete limit w b more right
  rw [same, second] at first
  cases first
  exact ⟨rfl, rfl⟩

theorem record_append_ne_nil (limit : Nat) (first rest : Bytes) (v : Option Value)
    (record : Record limit first v) : first ++ rest ≠ [] := by
  have nonempty := record_length_pos limit first v record
  exact List.append_ne_nil_of_left_ne_nil (List.length_pos_iff.mp nonempty) rest

theorem records_of_nil (limit : Nat) (records : List (Option Value)) (parsed : Records limit [] records) :
    records = [] := by
  generalize bytes : ([] : Bytes) = b at parsed
  cases parsed with
  | nil => rfl
  | cons first rest v others record more =>
    exact absurd bytes.symm (record_append_ne_nil limit first rest v record)

theorem records_rest (limit : Nat) (a b : Bytes) (before whole : List (Option Value))
    (left : Records limit a before) (all : Records limit (a ++ b) whole) :
    ∃ after, whole = before ++ after ∧ Records limit b after := by
  induction left generalizing whole with
  | nil => exact ⟨whole, rfl, all⟩
  | cons first rest v others record more ih =>
    rw [List.append_assoc] at all
    generalize bytes : first ++ (rest ++ b) = c at all
    cases all with
    | nil => exact absurd bytes (record_append_ne_nil limit first (rest ++ b) v record)
    | cons second tail w remaining other followed =>
      obtain ⟨rfl, rfl⟩ := record_unique limit first second (rest ++ b) tail v w record other bytes
      obtain ⟨after, rfl, parsed⟩ := ih remaining followed
      exact ⟨after, rfl, parsed⟩

theorem records_same_end (limit : Nat) (a b rest more : Bytes) (records : List (Option Value))
    (left : Records limit a records) (right : Records limit b records) (same : a ++ rest = b ++ more) :
    rest = more := by
  induction left generalizing b with
  | nil =>
    cases right
    exact same
  | cons first tail v others record followed ih =>
    cases right with
    | cons second other _ _ single remaining =>
      rw [List.append_assoc, List.append_assoc] at same
      exact ih other remaining (record_unique limit first second _ _ v v record single same).2

theorem records_unique (limit : Nat) (b : Bytes) (records others : List (Option Value))
    (left : Records limit b records) (right : Records limit b others) : others = records := by
  obtain ⟨after, rfl, nothing⟩ := records_rest limit b [] records others left (by rwa [List.append_nil])
  rw [records_of_nil limit after nothing, List.append_nil]

end SeriesCell
