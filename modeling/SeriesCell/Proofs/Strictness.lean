import SeriesCell.Proofs.Canonical
import SeriesCell.Proofs.Messages

/- The strict and the nullable way to read a cell. They part only where a message has no value: it is
   NULL to the one and an error to the other. -/
namespace SeriesCell

def BothMalformed (b : Bytes) : Prop :=
  ∃ e, (Cell.decode b).value = .error (.malformed e) ∧
    (Cell.decodeNullable b).value = .error (.malformed e)

structure Cell.Typed (c : Cell) : Prop where
  kind : c.isNull = false
  unique : ∃! kind, c.has kind = true
  nonempty : c.encode.value ≠ []
  again : (Cell.decode c.encode.value).value = .ok c

structure Cell.Valueless (c : Cell) : Prop where
  kind : c.isNull = true
  kinds : ∀ kind, c.has kind = false
  bytes : c.bytes = []
  text : c.text = []
  integer : c.integer = 0
  float : c.float = Double.zero
  timestamp : c.timestamp = 0
  boolean : c.boolean = false
  encoding : c.encode.value = []

def BothRead (b : Bytes) : Prop :=
  ∃ c : Cell, (Cell.decode b).value = .ok c ∧ (Cell.decodeNullable b).value = .ok c ∧ c.Typed

def OnlyNullable (b : Bytes) : Prop :=
  (Cell.decode b).value = .error .noValue ∧
  ∃ c : Cell, (Cell.decodeNullable b).value = .ok c ∧ c.Valueless

theorem null_valueless : Cell.null.Valueless where
  kind := rfl
  kinds _ := rfl
  bytes := rfl
  text := rfl
  integer := rfl
  float := rfl
  timestamp := rfl
  boolean := rfl
  encoding := encode_null

theorem holding_has_iff (v : Value) (kind : Kind) : (Cell.holding v).has kind = true ↔ kind = v.kind := by
  simp [Cell.has, Cell.kind, eq_comm]

theorem preferred_written (b : Bytes) (m : Message) (v : Value) (decoded : Message.decode b = .ok m)
    (preferred : m.preferred? = some v) : Record 100 v.write (some v) := by
  obtain ⟨records, parsed, rfl⟩ := records_of_decode b m decoded
  rw [preferred_put_all] at preferred
  obtain ⟨_, record, _, _, single⟩ := prevailing_record 100 b records v parsed preferred
  exact record_written 100 v record single

theorem typed_of_record (v : Value) (written : Record 100 v.write (some v)) : (Cell.holding v).Typed where
  kind := rfl
  unique := ⟨v.kind, (holding_has_iff v v.kind).mpr rfl, fun kind => (holding_has_iff v kind).mp⟩
  nonempty := by
    rw [encode_holding]
    exact write_ne_nil v
  again := by
    rw [encode_holding]
    exact decode_strict_records v.write [some v] v (records_single 100 v.write _ written)
      (prevailing_single v)

theorem decode_malformed (b : Bytes) (e : DecodeError) (failed : Message.decode b = .error e) :
    BothMalformed b :=
  ⟨e, by simp only [Cell.decode, failed], by simp only [Cell.decodeNullable, failed]⟩

theorem decode_nullable_preferred (b : Bytes) (m : Message) (decoded : Message.decode b = .ok m) :
    (Cell.decodeNullable b).value = .ok (Cell.ofValue? m.preferred?) := by
  simp only [Cell.decodeNullable, decoded, Traced.map, to_cell_nullable_value]

theorem decode_valueless (b : Bytes) (m : Message) (decoded : Message.decode b = .ok m)
    (absent : m.preferred? = none) : OnlyNullable b := by
  have empty := (empty_iff_no_preferred m).mpr absent
  have nullable := decode_nullable_preferred b m decoded
  rw [absent] at nullable
  refine ⟨?_, .null, nullable, null_valueless⟩
  simp only [Cell.decode, decoded, Message.toCell, if_pos empty]

theorem decode_present (b : Bytes) (m : Message) (v : Value) (decoded : Message.decode b = .ok m)
    (preferred : m.preferred? = some v) : BothRead b := by
  have nullable := decode_nullable_preferred b m decoded
  rw [preferred] at nullable
  refine ⟨.holding v, ?_, nullable, typed_of_record v (preferred_written b m v decoded preferred)⟩
  simp only [Cell.decode, decoded]
  exact to_cell_value m v preferred

theorem decode_cases (b : Bytes) : BothMalformed b ∨ BothRead b ∨ OnlyNullable b := by
  cases decoded : Message.decode b with
  | error e => exact .inl (decode_malformed b e decoded)
  | ok m =>
    cases preferred : m.preferred? with
    | none => exact .inr (.inr (decode_valueless b m decoded preferred))
    | some v => exact .inr (.inl (decode_present b m v decoded preferred))

theorem malformed_not_read (b : Bytes) (malformed : BothMalformed b) : ¬ BothRead b := by
  rintro ⟨c, strict, _⟩
  obtain ⟨e, failed, _⟩ := malformed
  rw [failed] at strict
  cases strict

theorem valueless_otherwise (b : Bytes) (valueless : OnlyNullable b) : ¬ BothMalformed b ∧ ¬ BothRead b := by
  constructor
  · rintro ⟨e, failed, _⟩
    rw [valueless.1] at failed
    cases failed
  · rintro ⟨c, strict, _⟩
    rw [valueless.1] at strict
    cases strict

theorem prevailing_none_iff (values : List Value) : prevailing? values = none ↔ values = [] := by
  constructor
  · intro nothing
    rw [List.eq_nil_iff_forall_not_mem]
    intro v member
    have absent := List.findSome?_eq_none_iff.mp nothing v.kind (by cases v.kind <;> decide)
    rw [lastOf?, List.find?_eq_none] at absent
    exact absent v (List.mem_reverse.mpr member) (decide_eq_true rfl)
  · rintro rfl
    rfl

theorem set_values_nil_iff (records : List (Option Value)) :
    setValues records = [] ↔ records = List.replicate records.length none := by
  rw [setValues, List.filterMap_eq_nil_iff, List.eq_replicate_iff]
  exact ⟨fun unknown => ⟨rfl, unknown⟩, fun same => same.2⟩

theorem only_nullable_iff (b : Bytes) :
    OnlyNullable b ↔ ∃ count, Records 100 b (List.replicate count none) := by
  constructor
  · rintro ⟨_, c, nullable, valueless⟩
    obtain ⟨records, parsed, rfl⟩ := decode_prevailing b c nullable
    cases prevails : prevailing? (setValues records) with
    | none =>
      have unknown := (set_values_nil_iff records).mp ((prevailing_none_iff _).mp prevails)
      exact ⟨records.length, unknown ▸ parsed⟩
    | some v =>
      rw [prevails] at valueless
      cases valueless.kind
  · rintro ⟨count, parsed⟩
    apply decode_valueless b _ (decode_records b _ parsed)
    rw [preferred_put_all, prevailing_none_iff, set_values_nil_iff, List.length_replicate]

theorem strict_and_nullable (b : Bytes) :
    (BothMalformed b ∨ BothRead b ∨ OnlyNullable b) ∧
    ¬ (BothMalformed b ∧ BothRead b) ∧ ¬ (BothMalformed b ∧ OnlyNullable b) ∧
    ¬ (BothRead b ∧ OnlyNullable b) ∧
    (OnlyNullable b ↔ ∃ count, Records 100 b (List.replicate count none)) ∧
    ∀ m : Message, m.isEmpty = false ↔ ∃ v, m.preferred? = some v ∧ m.presentCell.value = .holding v := by
  refine ⟨decode_cases b, ?_, ?_, ?_, only_nullable_iff b, ?_⟩
  · rintro ⟨malformed, read⟩
    exact malformed_not_read b malformed read
  · rintro ⟨malformed, valueless⟩
    exact (valueless_otherwise b valueless).1 malformed
  · rintro ⟨read, valueless⟩
    exact (valueless_otherwise b valueless).2 read
  · intro m
    rw [← Bool.not_eq_true, empty_iff_no_preferred, present_cell_value]
    cases m.preferred? <;> simp [Cell.ofValue?]

example : (Cell.decode [0x33, 0x20, 0x01, 0x34]).value = .error .noValue := by decide +kernel

end SeriesCell
