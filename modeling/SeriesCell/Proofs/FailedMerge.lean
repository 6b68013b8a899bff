import SeriesCell.Proofs.Concatenation

/- What a failed merge leaves behind. The records before the one that cannot be read are merged, and that
   one at most makes its field present: a field that was absent then holds its default, and a field that
   was there keeps its value. -/
namespace SeriesCell

structure StopsAfter (b done rest : Bytes) : Prop where
  split : b = done ++ rest
  records : ∃ records, Records 100 done records
  unread : rest ≠ []
  blocked : ∀ first tail v, rest = first ++ tail → ¬ Record 100 first v

def BeginsField (kind : Kind) (b : Bytes) : Prop :=
  ∃ key opening tail, b = opening ++ tail ∧ SpelledKey opening key ∧ key.tag = kind.tag

structure Touched (before after : Message) (rest : Bytes) : Prop where
  kept : ∀ kind v, before.get? kind = some v → after.get? kind = some v
  filled : ∀ kind, BeginsField kind rest → before.get? kind = none →
    after.get? kind = some (Value.default kind)
  others : ∀ kind, ¬ BeginsField kind rest → after.get? kind = before.get? kind

theorem get_touch (m : Message) (kind other : Kind) :
    (m.touch kind).get? other =
      (m.get? other).or (if other = kind then some (Value.default kind) else none) := by
  rw [Message.touch]
  cases present : m.get? kind with
  | some v =>
    by_cases same : other = kind
    · simp [same, present]
    · simp [same]
  | none =>
    simp only [Message.get?_put, Value.kind_default]
    by_cases same : other = kind
    · simp [same, present]
    · simp [same]

theorem field_count_put (m : Message) (v : Value) (absent : m.get? v.kind = none) :
    (m.put v).fieldCount = m.fieldCount + 1 := by
  cases v <;> simp only [Value.kind, Message.get?, Option.map_eq_none_iff] at absent <;>
    simp [Message.put, Message.fieldCount, absent] <;> omega

theorem field_count_touch (m : Message) (kind : Kind) :
    m.fieldCount ≤ (m.touch kind).fieldCount ∧ (m.touch kind).fieldCount ≤ m.fieldCount + 1 := by
  rw [Message.touch]
  cases present : m.get? kind with
  | some v => exact ⟨Nat.le_refl _, Nat.le_succ _⟩
  | none =>
    have count := field_count_put m (Value.default kind) (by rwa [Value.kind_default])
    simp only [count]
    exact ⟨Nat.le_succ _, Nat.le_refl _⟩

theorem begins_field_iff (kind : Kind) (b : Bytes) :
    BeginsField kind b ↔ ∃ key body, Key.read b = .ok (key, body) ∧ Kind.ofTag? key.tag = some kind := by
  constructor
  · rintro ⟨key, opening, body, split, spelled, tag⟩
    exact ⟨key, body, (key_read_iff key b body).mpr ⟨opening, split, spelled⟩,
      (kind_of_tag_iff key.tag kind).mpr tag.symm⟩
  · rintro ⟨key, body, read, known⟩
    obtain ⟨opening, split, spelled⟩ := (key_read_iff key b body).mp read
    exact ⟨key, opening, body, split, spelled, ((kind_of_tag_iff key.tag kind).mp known).symm⟩

-- The places where reading a record can fail: in its key, which names no field yet, and after it.
theorem read_record_error (limit : Nat) (b : Bytes) (e : DecodeError)
    (failed : readRecord limit b = .error e) :
    (e.field = none ∧ ∃ defect, Key.read b = .error defect) ∨
    ∃ key body, Key.read b = .ok (key, body) ∧ e.field = Kind.ofTag? key.tag := by
  rw [readRecord] at failed
  cases read : Key.read b with
  | error defect =>
    simp only [read, Except.error.injEq] at failed
    exact .inl ⟨by rw [← failed], defect, rfl⟩
  | ok pair =>
    obtain ⟨key, body⟩ := pair
    refine .inr ⟨key, body, rfl, ?_⟩
    simp only [read] at failed
    cases known : Kind.ofTag? key.tag with
    | none =>
      cases skipped : skip limit key body with
      | ok after => simp [known, skipped] at failed
      | error defect =>
        simp only [known, skipped, Except.error.injEq] at failed
        rw [← failed]
    | some kind =>
      by_cases typed : key.type = kind.wireType
      · cases value : Value.readBody kind body with
        | ok pair => simp [known, typed, value] at failed
        | error defect =>
          simp only [known, if_pos typed, value, Except.error.injEq] at failed
          rw [← failed]
      · simp only [known, if_neg typed, Except.error.injEq] at failed
        rw [← failed]

theorem error_field_iff (limit : Nat) (b : Bytes) (e : DecodeError) (kind : Kind)
    (failed : readRecord limit b = .error e) : e.field = some kind ↔ BeginsField kind b := by
  rw [begins_field_iff]
  rcases read_record_error limit b e failed with ⟨unnamed, defect, unread⟩ | ⟨key, body, read, field⟩
  · simp [unnamed, unread]
  · simp [field, read]

theorem touch_failed (limit : Nat) (m : Message) (rest : Bytes) (e : DecodeError)
    (failed : readRecord limit rest = .error e) : Touched m (m.touchFailed e) rest := by
  have lookups : ∀ kind, (m.touchFailed e).get? kind =
      (m.get? kind).or (if e.field = some kind then some (Value.default kind) else none) := by
    intro kind
    rw [Message.touchFailed]
    cases named : e.field with
    | none => simp
    | some field =>
      rw [get_touch]
      by_cases same : kind = field
      · simp [same]
      · simp [same, Ne.symm same]
  refine ⟨?_, ?_, ?_⟩
  · intro kind v present
    rw [lookups, present, Option.some_or]
  · intro kind begins absent
    rw [lookups, absent, if_pos ((error_field_iff limit rest e kind failed).mpr begins), Option.none_or]
  · intro kind other
    have unnamed : e.field ≠ some kind := fun named =>
      other ((error_field_iff limit rest e kind failed).mp named)
    rw [lookups, if_neg unnamed, Option.or_none]

theorem field_count_touch_failed (m : Message) (e : DecodeError) :
    m.fieldCount ≤ (m.touchFailed e).fieldCount ∧ (m.touchFailed e).fieldCount ≤ m.fieldCount + 1 := by
  rw [Message.touchFailed]
  cases e.field with
  | none => exact ⟨Nat.le_refl _, Nat.le_succ _⟩
  | some kind => exact field_count_touch m kind

theorem stops_after_error (done rest : Bytes) (records : List (Option Value)) (e : DecodeError)
    (parsed : Records 100 done records) (more : rest ≠ []) (failed : readRecord 100 rest = .error e) :
    StopsAfter (done ++ rest) done rest where
  split := rfl
  records := ⟨records, parsed⟩
  unread := more
  blocked := by
    rintro first tail v rfl record
    rw [read_record_complete 100 v first tail record] at failed
    cases failed

theorem records_stop_once (limit : Nat) (a b rest left : Bytes) (records others : List (Option Value))
    (parsed : Records limit a records) (again : Records limit b others) (same : a ++ rest = b ++ left)
    (blocked : ∀ first tail v, rest = first ++ tail → ¬ Record limit first v)
    (stuck : ∀ first tail v, left = first ++ tail → ¬ Record limit first v) : b = a ∧ left = rest := by
  induction parsed generalizing b others with
  | nil =>
    cases again with
    | nil => exact ⟨rfl, same.symm⟩
    | cons second more w _ record _ =>
      rw [List.nil_append, List.append_assoc] at same
      exact absurd record (blocked second (more ++ left) w same)
  | cons first tail v _ record _ ih =>
    rw [List.append_assoc] at same
    cases again with
    | nil => exact absurd record (stuck first (tail ++ rest) v same.symm)
    | cons second more w others other followed =>
      rw [List.append_assoc] at same
      obtain ⟨_, tails⟩ := record_unique limit first second _ _ v w record other same
      obtain ⟨rfl, rfl⟩ := ih more others followed tails
      exact ⟨by rw [List.append_cancel_right same], rfl⟩

theorem failed_merge_leaves (m : Message) (b : Bytes) (e : DecodeError)
    (failed : (m.merge b).error = some e) :
    ∃ done rest, StopsAfter b done rest ∧
      (∀ other left, StopsAfter b other left → other = done ∧ left = rest) ∧
      (m.merge done).error = none ∧
      Touched (m.merge done).message (m.merge b).message rest ∧
      (m.merge done).message.fieldCount ≤ (m.merge b).message.fieldCount ∧
      (m.merge b).message.fieldCount ≤ (m.merge done).message.fieldCount + 1 ∧
      ∀ c n, Message.decode c = .ok n →
        (m.merge b).message.merge c = ⟨(m.merge b).message.override n, none⟩ := by
  obtain ⟨done, records, rest, rfl, parsed, rfl | ⟨more, defect, unread⟩⟩ := records_split 100 b
  · have succeeded := (merge_succeeds_iff 100 m (done ++ [])).mpr ⟨records, by rwa [List.append_nil]⟩
    rw [Message.merge, Message.skipLimit, succeeded] at failed
    cases failed
  · have before : m.merge done = ⟨m.putAll (setValues records), none⟩ :=
      merge_all_records 100 m done records parsed
    have after : m.merge (done ++ rest) =
        ⟨(m.putAll (setValues records)).touchFailed defect, some defect⟩ :=
      merge_failed_record 100 m done rest records defect parsed more unread
    have stops := stops_after_error done rest records defect parsed more unread
    have count := field_count_touch_failed (m.putAll (setValues records)) defect
    refine ⟨done, rest, stops, ?_, by rw [before], ?_, ?_, ?_, ?_⟩
    · intro other left also
      obtain ⟨others, again⟩ := also.records
      exact records_stop_once 100 done other rest left records others parsed again also.split
        stops.blocked also.blocked
    · rw [before, after]
      exact touch_failed 100 _ rest defect unread
    · rw [before, after]
      exact count.1
    · rw [before, after]
      exact count.2
    · intro c n accepted
      exact merge_overrides _ n c accepted

theorem cut_text_left_empty :
    (Message.empty.merge [0x10, 0x02, 0x0a, 0x05, 0x61]).error = some ⟨some .text, .underflow⟩ ∧
    StopsAfter [0x10, 0x02, 0x0a, 0x05, 0x61] [0x10, 0x02] [0x0a, 0x05, 0x61] ∧
    (Message.empty.merge [0x10, 0x02]).message.get? .text = none ∧
    (Message.empty.merge [0x10, 0x02, 0x0a, 0x05, 0x61]).message.get? .text = some (.text []) ∧
    (Message.empty.merge [0x10, 0x02, 0x0a, 0x05, 0x61]).message.get? .integer = some (.integer 1) := by
  have failed : (Message.empty.merge [0x10, 0x02, 0x0a, 0x05, 0x61]).error =
      some ⟨some .text, .underflow⟩ := by cbv
  have integer : readRecord 100 [0x10, 0x02] = .ok (some (.integer 1), []) := by cbv
  have text : readRecord 100 [0x0a, 0x05, 0x61] = .error ⟨some .text, .underflow⟩ := by cbv
  have key : Key.read [0x0a, 0x05, 0x61] = .ok (⟨1, .delimited⟩, [0x05, 0x61]) := by cbv
  have before : (Message.empty.merge [0x10, 0x02]).message = Message.empty.put (.integer 1) := by cbv
  obtain ⟨first, split, record⟩ := read_record_sound 100 _ _ [] integer
  rw [List.append_nil] at split
  have stops : StopsAfter [0x10, 0x02, 0x0a, 0x05, 0x61] [0x10, 0x02] [0x0a, 0x05, 0x61] :=
    stops_after_error [0x10, 0x02] _ _ _ (records_single 100 _ _ (split ▸ record)) (by decide) text
  have begins : BeginsField .text [0x0a, 0x05, 0x61] :=
    (begins_field_iff .text _).mpr ⟨⟨1, .delimited⟩, [0x05, 0x61], key, rfl⟩
  obtain ⟨done, rest, _, once, _, touched, _⟩ :=
    failed_merge_leaves Message.empty [0x10, 0x02, 0x0a, 0x05, 0x61] _ failed
  obtain ⟨rfl, rfl⟩ := once _ _ stops
  rw [before] at touched
  exact ⟨failed, stops, by rw [before]; rfl, touched.filled .text begins rfl,
    touched.kept .integer (.integer 1) rfl⟩

end SeriesCell
