import SeriesCell.Proofs.Records

/- What merging does to a message. Every input is records and then either its end or a record that
   cannot be read, and neither the split nor the error depends on the message merged into. -/
namespace SeriesCell

def Message.putAll (m : Message) (values : List Value) : Message := values.foldl Message.put m

def lastOf? (kind : Kind) (values : List Value) : Option Value :=
  values.reverse.find? (fun v => decide (v.kind = kind))

-- What several fields stand for: the last value of the first of these kinds that occurs at all.
def prevailing? (values : List Value) : Option Value :=
  [Kind.boolean, .float, .integer, .timestamp, .text].findSome? (fun kind => lastOf? kind values)

def setValues (records : List (Option Value)) : List Value := records.filterMap id

theorem set_values_of_some (values : List Value) : setValues (values.map some) = values := by
  rw [setValues, List.filterMap_map]
  exact List.filterMap_some

theorem set_values_unknown (records : List (Option Value)) (unknown : ∀ v ∈ records, v = none) :
    setValues records = [] := by
  rw [setValues, List.filterMap_eq_nil_iff]
  exact unknown

theorem last_of_cons (kind : Kind) (v : Value) (values : List Value) :
    lastOf? kind (v :: values) = (lastOf? kind values).or (if v.kind = kind then some v else none) := by
  unfold lastOf?
  rw [List.reverse_cons, List.find?_append]
  by_cases same : v.kind = kind <;> simp [same]

theorem get_put_all (m : Message) (values : List Value) (kind : Kind) :
    (m.putAll values).get? kind = (lastOf? kind values).or (m.get? kind) := by
  induction values generalizing m with
  | nil => rfl
  | cons v values ih =>
    have step : (m.putAll (v :: values)) = (m.put v).putAll values := rfl
    rw [step, ih, Message.get?_put, last_of_cons, Option.or_assoc]
    by_cases same : kind = v.kind
    · simp [same]
    · simp [same, Ne.symm same]

theorem get_empty (kind : Kind) : Message.empty.get? kind = none := by
  cases kind <;> rfl

theorem preferred_put_all (values : List Value) :
    (Message.empty.putAll values).preferred? = prevailing? values := by
  unfold Message.preferred? prevailing?
  congr 1
  funext kind
  rw [get_put_all, get_empty, Option.or_none]

theorem put_all_override (m : Message) (values : List Value) :
    m.putAll values = m.override (Message.empty.putAll values) := by
  apply Message.ext_get?
  intro kind
  rw [get_put_all, Message.get?_override, get_put_all, get_empty, Option.or_none]

theorem put_all_records (m : Message) (records : List (Option Value)) (v : Option Value) :
    m.putAll (setValues (v :: records)) = (m.putRead v).putAll (setValues records) := by
  cases v <;> rfl

theorem drop_empty_iff (count : Nat) (b : Bytes) : (b.drop count).isEmpty = true ↔ b.length ≤ count := by
  rw [List.isEmpty_iff, List.drop_eq_nil_iff]

theorem merge_more (reserve limit : Nat) (m : Message) (b : Bytes) (more : reserve < b.length) :
    m.mergeDownTo reserve limit b = match readRecord limit b with
      | .error e => ⟨m.touchFailed e, some e⟩
      | .ok (v, rest) => (m.putRead v).mergeDownTo reserve limit rest := by
  have unread : ¬ (b.drop reserve).isEmpty = true := by
    rw [drop_empty_iff]
    exact Nat.not_le.mpr more
  rw [Message.mergeDownTo, if_neg unread]
  split <;> rename_i read <;> simp only [read]

theorem merge_step (reserve limit : Nat) (m : Message) (b rest : Bytes) (v : Option Value)
    (more : reserve < b.length) (read : readRecord limit b = .ok (v, rest)) :
    m.mergeDownTo reserve limit b = (m.putRead v).mergeDownTo reserve limit rest := by
  rw [merge_more reserve limit m b more, read]

theorem merge_stop (reserve limit : Nat) (m : Message) (b : Bytes) (e : DecodeError)
    (more : reserve < b.length) (read : readRecord limit b = .error e) :
    m.mergeDownTo reserve limit b = ⟨m.touchFailed e, some e⟩ := by
  rw [merge_more reserve limit m b more, read]

theorem merge_down_to_end (limit : Nat) (m : Message) (b : Bytes) :
    m.mergeDownTo b.length limit b = ⟨m, none⟩ := by
  rw [Message.mergeDownTo, if_pos ((drop_empty_iff b.length b).mpr (Nat.le_refl _)), if_pos rfl]

theorem merge_records_down_to (reserve limit : Nat) (m : Message) (a b : Bytes)
    (records : List (Option Value)) (parsed : Records limit a records) (enough : reserve ≤ b.length) :
    m.mergeDownTo reserve limit (a ++ b) =
      (m.putAll (setValues records)).mergeDownTo reserve limit b := by
  induction parsed generalizing m with
  | nil => rfl
  | cons first rest v others record more ih =>
    have nonempty := record_length_pos limit first v record
    have unread : reserve < (first ++ (rest ++ b)).length := by
      rw [List.length_append, List.length_append]
      omega
    rw [List.append_assoc, merge_step reserve limit m (first ++ (rest ++ b)) (rest ++ b) v unread
      (read_record_complete limit v first (rest ++ b) record), ih, put_all_records]

theorem merge_before (limit : Nat) (m : Message) (a rest : Bytes) (records : List (Option Value))
    (parsed : Records limit a records) :
    m.mergeDownTo rest.length limit (a ++ rest) = ⟨m.putAll (setValues records), none⟩ := by
  rw [merge_records_down_to rest.length limit m a rest records parsed (Nat.le_refl _),
    merge_down_to_end]

theorem records_before_reserve (reserve limit : Nat) (m : Message) (b : Bytes)
    (succeeded : (m.mergeDownTo reserve limit b).error = none) :
    ∃ a rest records, b = a ++ rest ∧ rest.length = reserve ∧ Records limit a records := by
  fun_induction Message.mergeDownTo reserve limit m b with
  | case1 m b _ size => exact ⟨[], b, [], rfl, size, .nil⟩
  | case2 => simp at succeeded
  | case3 => simp at succeeded
  | case4 m b _ v after read ih =>
    obtain ⟨first, same, record⟩ := read_record_sound limit v b after read
    obtain ⟨a, rest, records, split, size, parsed⟩ := ih succeeded
    exact ⟨first ++ a, rest, v :: records, by rw [same, split, List.append_assoc], size,
      .cons first a v records record parsed⟩

theorem merge_before_iff (limit : Nat) (m n : Message) (a rest : Bytes) :
    m.mergeDownTo rest.length limit (a ++ rest) = ⟨n, none⟩ ↔
      ∃ records, Records limit a records ∧ n = m.putAll (setValues records) := by
  constructor
  · intro merged
    obtain ⟨front, tail, records, split, size, parsed⟩ :=
      records_before_reserve rest.length limit m (a ++ rest) (by rw [merged])
    obtain ⟨rfl, rfl⟩ := List.append_inj' split size.symm
    rw [merge_before limit m a rest records parsed] at merged
    exact ⟨records, parsed, (congrArg Merged.message merged).symm⟩
  · rintro ⟨records, parsed, rfl⟩
    exact merge_before limit m a rest records parsed

theorem merge_records (limit : Nat) (m : Message) (a b : Bytes) (records : List (Option Value))
    (parsed : Records limit a records) :
    m.mergeDownTo 0 limit (a ++ b) = (m.putAll (setValues records)).mergeDownTo 0 limit b :=
  merge_records_down_to 0 limit m a b records parsed (Nat.zero_le _)

-- Where the records end. The message that is merged into has no part in it.
theorem records_split (limit : Nat) (b : Bytes) :
    ∃ a records rest, b = a ++ rest ∧ Records limit a records ∧
      (rest = [] ∨ rest ≠ [] ∧ ∃ e, readRecord limit rest = .error e) := by
  induction length : b.length using Nat.strongRecOn generalizing b with
  | ind n ih =>
    subst length
    by_cases empty : b = []
    · exact ⟨[], [], b, rfl, .nil, .inl empty⟩
    · cases read : readRecord limit b with
      | error e => exact ⟨[], [], b, rfl, .nil, .inr ⟨empty, e, read⟩⟩
      | ok found =>
        obtain ⟨v, after⟩ := found
        obtain ⟨first, same, record⟩ := read_record_sound limit v b after read
        obtain ⟨a, records, rest, split, parsed, stopped⟩ :=
          ih after.length (read_record_shorter read) after rfl
        exact ⟨first ++ a, v :: records, rest, by rw [same, split, List.append_assoc],
          .cons first a v records record parsed, stopped⟩

theorem merge_all_records (limit : Nat) (m : Message) (b : Bytes) (records : List (Option Value))
    (parsed : Records limit b records) :
    m.mergeDownTo 0 limit b = ⟨m.putAll (setValues records), none⟩ := by
  have run := merge_before limit m b [] records parsed
  rwa [List.append_nil] at run

theorem merge_failed_record (limit : Nat) (m : Message) (a rest : Bytes)
    (records : List (Option Value)) (e : DecodeError) (parsed : Records limit a records)
    (more : rest ≠ []) (failed : readRecord limit rest = .error e) :
    m.mergeDownTo 0 limit (a ++ rest) =
      ⟨(m.putAll (setValues records)).touchFailed e, some e⟩ := by
  rw [merge_records limit m a rest records parsed]
  exact merge_stop 0 limit _ rest e (List.length_pos_iff.mpr more) failed

theorem merge_succeeds_iff (limit : Nat) (m : Message) (b : Bytes) :
    (m.mergeDownTo 0 limit b).error = none ↔ ∃ records, Records limit b records := by
  constructor
  · intro done
    obtain ⟨a, rest, records, rfl, size, parsed⟩ := records_before_reserve 0 limit m b done
    rw [List.length_eq_zero_iff.mp size, List.append_nil]
    exact ⟨records, parsed⟩
  · rintro ⟨records, parsed⟩
    rw [merge_all_records limit m b records parsed]

theorem merge_error_independent (limit : Nat) (m n : Message) (b : Bytes) :
    (m.mergeDownTo 0 limit b).error = (n.mergeDownTo 0 limit b).error := by
  obtain ⟨a, records, rest, rfl, parsed, rfl | ⟨more, e, failed⟩⟩ := records_split limit b
  · simp only [List.append_nil, merge_all_records limit _ a records parsed]
  · simp only [merge_failed_record limit _ a rest records e parsed more failed]

theorem to_except_ok_iff (merged : Merged) (m : Message) :
    merged.toExcept = .ok m ↔ merged = ⟨m, none⟩ := by
  obtain ⟨message, error⟩ := merged
  cases error <;> simp [Merged.toExcept]

theorem decode_records (b : Bytes) (records : List (Option Value)) (parsed : Records 100 b records) :
    Message.decode b = .ok (Message.empty.putAll (setValues records)) := by
  rw [Message.decode, to_except_ok_iff]
  exact merge_all_records 100 Message.empty b records parsed

theorem records_of_decode (b : Bytes) (m : Message) (decoded : Message.decode b = .ok m) :
    ∃ records, Records 100 b records ∧ m = Message.empty.putAll (setValues records) := by
  rw [Message.decode, to_except_ok_iff] at decoded
  apply (merge_before_iff 100 Message.empty m b []).mp
  rw [List.append_nil]
  exact decoded

end SeriesCell
