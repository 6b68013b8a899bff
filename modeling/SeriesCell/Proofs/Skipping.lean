import SeriesCell.Proofs.Spelling

/- What may follow a key of no field. Groups nest, and the grammar below nests with them, while the
   reader keeps a list of the groups that are open. Both agree: a skip takes one body off the front
   exactly if the grammar has it at the level of the list. -/
namespace SeriesCell

inductive PlainBody : WireType → Bytes → Prop where
  | varint (b : Bytes) (n : Nat) (number : SpelledNumber b n) : PlainBody .varint b
  | fixed64 (b : Bytes) (size : b.length = 8) : PlainBody .fixed64 b
  | delimited (count payload : Bytes) (number : SpelledNumber count payload.length) :
      PlainBody .delimited (count ++ payload)
  | fixed32 (b : Bytes) (size : b.length = 4) : PlainBody .fixed32 b

-- The body of an element at a level, and elements of one level up to the end of their group. The
-- key that ends a group is no element, so the level does not bound it.
mutual
inductive SkippedBody (limit : Nat) : Nat → Key → Bytes → Prop where
  | plain (level : Nat) (key : Key) (body : Bytes) (shallow : level ≤ limit)
      (form : PlainBody key.type body) : SkippedBody limit level key body
  | group (level tag : Nat) (inner close : Bytes) (shallow : level ≤ limit)
      (elements : Elements limit (level + 1) inner) (closing : SpelledKey close ⟨tag, .groupEnd⟩) :
      SkippedBody limit level ⟨tag, .groupStart⟩ (inner ++ close)

inductive Elements (limit : Nat) : Nat → Bytes → Prop where
  | nil (level : Nat) : Elements limit level []
  | cons (level : Nat) (key : Key) (opening body rest : Bytes) (spelled : SpelledKey opening key)
      (skipped : SkippedBody limit level key body) (more : Elements limit level rest) :
      Elements limit level (opening ++ body ++ rest)
end

-- What ends the open groups, the innermost first.
inductive Closes (limit : Nat) : List Nat → Bytes → Prop where
  | nil : Closes limit [] []
  | cons (tag : Nat) (outer : List Nat) (inner close rest : Bytes)
      (elements : Elements limit (outer.length + 2) inner)
      (closing : SpelledKey close ⟨tag, .groupEnd⟩) (more : Closes limit outer rest) :
      Closes limit (tag :: outer) (inner ++ close ++ rest)

mutual
theorem skipped_body_deeper (limit deeper : Nat) (allowed : limit ≤ deeper) :
    ∀ level key body, SkippedBody limit level key body → SkippedBody deeper level key body
  | level, key, body, .plain _ _ _ shallow form =>
    .plain level key body (Nat.le_trans shallow allowed) form
  | level, _, _, .group _ tag inner close shallow elements closing =>
    .group level tag inner close (Nat.le_trans shallow allowed)
      (elements_deeper limit deeper allowed (level + 1) inner elements) closing

theorem elements_deeper (limit deeper : Nat) (allowed : limit ≤ deeper) :
    ∀ level b, Elements limit level b → Elements deeper level b
  | level, _, .nil _ => .nil level
  | level, _, .cons _ key opening body rest spelled skipped more =>
    .cons level key opening body rest spelled
      (skipped_body_deeper limit deeper allowed level key body skipped)
      (elements_deeper limit deeper allowed level rest more)
end

theorem bytes_split_iff (count : Nat) (b taken rest : Bytes) :
    b.split? count = some (taken, rest) ↔ b = taken ++ rest ∧ taken.length = count := by
  constructor
  · exact Bytes.split?_eq_some
  · rintro ⟨rfl, rfl⟩
    exact Bytes.split?_append taken rest

theorem skip_bytes_iff (count : Nat) (b rest : Bytes) :
    skipBytes count b = .ok rest ↔ ∃ a, b = a ++ rest ∧ a.length = count := by
  constructor
  · intro skipped
    rw [skipBytes] at skipped
    cases found : b.split? count with
    | none => simp [found] at skipped
    | some parts =>
      obtain ⟨taken, after⟩ := parts
      simp only [found, Except.ok.injEq] at skipped
      subst skipped
      exact ⟨taken, (bytes_split_iff count b taken after).mp found⟩
  · rintro ⟨a, split⟩
    simp [skipBytes, (bytes_split_iff count b a rest).mpr split]

theorem skip_plain_sound (type : WireType) (b rest : Bytes) (skipped : skipPlain type b = .ok rest) :
    ∃ a, b = a ++ rest ∧ PlainBody type a := by
  cases type with
  | varint =>
    cases found : Varint.read b with
    | none => simp [skipPlain, found] at skipped
    | some pair =>
      obtain ⟨n, after⟩ := pair
      simp only [skipPlain, found, Except.ok.injEq] at skipped
      subst skipped
      obtain ⟨a, split, number⟩ := (varint_read_iff n b after).mp found
      exact ⟨a, split, .varint a n number⟩
  | delimited =>
    cases found : Varint.read b with
    | none => simp [skipPlain, found] at skipped
    | some pair =>
      obtain ⟨n, after⟩ := pair
      simp only [skipPlain, found] at skipped
      obtain ⟨count, split, number⟩ := (varint_read_iff n b after).mp found
      obtain ⟨payload, inner, rfl⟩ := (skip_bytes_iff n after rest).mp skipped
      exact ⟨count ++ payload, by rw [split, inner, List.append_assoc], .delimited count payload number⟩
  | fixed64 =>
    obtain ⟨a, split, size⟩ := (skip_bytes_iff 8 b rest).mp skipped
    exact ⟨a, split, .fixed64 a size⟩
  | fixed32 =>
    obtain ⟨a, split, size⟩ := (skip_bytes_iff 4 b rest).mp skipped
    exact ⟨a, split, .fixed32 a size⟩
  | groupStart => simp [skipPlain] at skipped
  | groupEnd => simp [skipPlain] at skipped

theorem skip_plain_complete (type : WireType) (a rest : Bytes) (form : PlainBody type a) :
    skipPlain type (a ++ rest) = .ok rest := by
  cases form with
  | varint _ n number => simp only [skipPlain, (varint_read_iff n _ rest).mpr ⟨a, rfl, number⟩]
  | delimited count payload number =>
    rw [List.append_assoc]
    simp only [skipPlain, (varint_read_iff _ _ (payload ++ rest)).mpr ⟨count, rfl, number⟩]
    exact (skip_bytes_iff payload.length _ rest).mpr ⟨payload, rfl, rfl⟩
  | fixed64 _ size => exact (skip_bytes_iff 8 _ rest).mpr ⟨a, rfl, size⟩
  | fixed32 _ size => exact (skip_bytes_iff 4 _ rest).mpr ⟨a, rfl, size⟩

theorem plain_body_type (type : WireType) (b : Bytes) (form : PlainBody type b) :
    type ≠ .groupStart ∧ type ≠ .groupEnd := by
  cases form <;> simp

-- Everything that one step of the skipping loop can do.
theorem skip_element_cases (limit : Nat) (opened left : List Nat) (key : Key) (b rest : Bytes)
    (step : skipElement limit opened key b = .ok (left, rest)) :
    (key.type = .groupEnd ∧ opened = key.tag :: left ∧ rest = b) ∨
    (key.type = .groupStart ∧ opened.length < limit ∧ left = key.tag :: opened ∧ rest = b) ∨
    (opened.length < limit ∧ left = opened ∧ skipPlain key.type b = .ok rest) := by
  unfold skipElement at step
  split at step
  · rename_i ending
    split at step
    · rename_i tag outer
      by_cases same : key.tag = tag
      · rw [if_pos same] at step
        cases step
        exact .inl ⟨ending, by rw [same], rfl⟩
      · simp [same] at step
    · simp at step
  · by_cases deep : limit ≤ opened.length
    · simp [deep] at step
    · rw [if_neg deep] at step
      by_cases starting : key.type = .groupStart
      · rw [if_pos starting] at step
        cases step
        exact .inr (.inl ⟨starting, Nat.lt_of_not_le deep, rfl, rfl⟩)
      · rw [if_neg starting] at step
        cases plain : skipPlain key.type b with
        | error defect => simp [plain] at step
        | ok after =>
          rw [plain] at step
          cases step
          exact .inr (.inr ⟨Nat.lt_of_not_le deep, rfl, rfl⟩)

theorem skip_element_plain (limit : Nat) (opened : List Nat) (key : Key) (body rest : Bytes)
    (shallow : opened.length < limit) (form : PlainBody key.type body) :
    skipElement limit opened key (body ++ rest) = .ok (opened, rest) := by
  obtain ⟨notStart, notEnd⟩ := plain_body_type key.type body form
  unfold skipElement
  split
  · exact absurd ‹_› notEnd
  · rw [if_neg (Nat.not_le.mpr shallow), if_neg notStart, skip_plain_complete key.type body rest form]

theorem skip_element_start (limit tag : Nat) (opened : List Nat) (b : Bytes)
    (shallow : opened.length < limit) :
    skipElement limit opened ⟨tag, .groupStart⟩ b = .ok (tag :: opened, b) := by
  simp [skipElement, Nat.not_le.mpr shallow]

theorem skip_element_end (limit tag : Nat) (outer : List Nat) (b : Bytes) :
    skipElement limit (tag :: outer) ⟨tag, .groupEnd⟩ b = .ok (outer, b) := by
  simp [skipElement]

def skipInside (limit : Nat) (opened : List Nat) (key : Key) (b : Bytes) : Except Defect Bytes :=
  match skipElement limit opened key b with
  | .error defect => .error defect
  | .ok (left, rest) => skipGroups limit left rest

theorem skip_inside_eq (limit : Nat) (opened left : List Nat) (key : Key) (b rest : Bytes)
    (step : skipElement limit opened key b = .ok (left, rest)) :
    skipInside limit opened key b = skipGroups limit left rest := by
  simp only [skipInside, step]

theorem skip_groups_open (limit tag : Nat) (outer : List Nat) (b : Bytes) :
    skipGroups limit (tag :: outer) b = match Key.read b with
      | .error defect => .error defect
      | .ok (key, body) => skipInside limit (tag :: outer) key body := by
  rw [skipGroups]
  split <;> rename_i read <;> simp only [read, skipInside]
  split <;> rename_i step <;> simp only [step]

theorem skip_groups_key (limit tag : Nat) (outer : List Nat) (key : Key) (opening b : Bytes)
    (spelled : SpelledKey opening key) :
    skipGroups limit (tag :: outer) (opening ++ b) = skipInside limit (tag :: outer) key b := by
  have read := (key_read_iff key (opening ++ b) b).mpr ⟨opening, rfl, spelled⟩
  rw [skip_groups_open limit tag outer, read]

mutual
theorem skip_inside_complete (limit level : Nat) (opened : List Nat) (key : Key) (body rest : Bytes)
    (skipped : SkippedBody limit level key body) (depth : level = opened.length + 1) :
    skipInside limit opened key (body ++ rest) = skipGroups limit opened rest := by
  cases skipped with
  | plain _ _ _ shallow form =>
    exact skip_inside_eq limit opened opened key _ rest
      (skip_element_plain limit opened key body rest (by omega) form)
  | group _ tag inner close shallow elements closing =>
    rw [skip_inside_eq limit opened (tag :: opened) _ _ _
      (skip_element_start limit tag opened _ (by omega)), List.append_assoc,
      skip_groups_complete limit (level + 1) tag opened inner (close ++ rest) elements
        (by rw [depth]),
      skip_groups_key limit tag opened _ close rest closing]
    exact skip_inside_eq limit (tag :: opened) opened _ rest rest
      (skip_element_end limit tag opened rest)
termination_by body.length
decreasing_by
  have nonempty := spelled_key_length_pos close _ closing
  subst_vars
  simp only [List.length_append]
  omega

theorem skip_groups_complete (limit level tag : Nat) (outer : List Nat) (a rest : Bytes)
    (elements : Elements limit level a) (depth : level = outer.length + 2) :
    skipGroups limit (tag :: outer) (a ++ rest) = skipGroups limit (tag :: outer) rest := by
  cases elements with
  | nil => rfl
  | cons _ key opening body more spelled skipped others =>
    rw [List.append_assoc, List.append_assoc,
      skip_groups_key limit tag outer key opening _ spelled,
      skip_inside_complete limit level (tag :: outer) key body (more ++ rest) skipped
        (by rw [depth, List.length_cons])]
    exact skip_groups_complete limit level tag outer more rest others depth
termination_by a.length
decreasing_by
  all_goals
    have nonempty := spelled_key_length_pos opening key spelled
    subst_vars
    simp only [List.length_append]
    omega
end

-- One step, followed by what ends the groups that it leaves open. Either it ended a group itself, or
-- it began an element that is complete when only the groups of before are open again.
theorem closes_element (limit : Nat) (opened left : List Nat) (key : Key) (b a rest : Bytes)
    (step : skipElement limit opened key b = .ok (left, a ++ rest)) (closed : Closes limit left a) :
    (key.type = .groupEnd ∧ opened = key.tag :: left ∧ b = a ++ rest) ∨
    ∃ body others, b = body ++ others ++ rest ∧
      SkippedBody limit (opened.length + 1) key body ∧ Closes limit opened others := by
  rcases skip_element_cases limit opened left key b (a ++ rest) step with
    ⟨ending, pop, same⟩ | ⟨starting, shallow, rfl, same⟩ | ⟨shallow, rfl, plain⟩
  · exact .inl ⟨ending, pop, same.symm⟩
  · obtain ⟨tag, type⟩ := key
    subst starting
    cases closed with
    | cons _ _ inner close others elements closing more =>
      exact .inr ⟨inner ++ close, others, same.symm, .group _ tag inner close shallow elements closing, more⟩
  · obtain ⟨body, split, form⟩ := skip_plain_sound key.type b (a ++ rest) plain
    exact .inr ⟨body, a, by rw [split, List.append_assoc], .plain _ key body shallow form, closed⟩

theorem skip_groups_sound (limit : Nat) (opened : List Nat) (b rest : Bytes)
    (skipped : skipGroups limit opened b = .ok rest) :
    ∃ a, b = a ++ rest ∧ Closes limit opened a := by
  fun_induction skipGroups limit opened b with
  | case1 b =>
    cases skipped
    exact ⟨[], rfl, .nil⟩
  | case2 => simp at skipped
  | case3 => simp at skipped
  | case4 b tag outer key body keyRead left after step ih =>
    obtain ⟨opening, split, spelled⟩ := (key_read_iff key b body).mp keyRead
    obtain ⟨a, rfl, closed⟩ := ih skipped
    rcases closes_element limit (tag :: outer) left key body a rest step closed with
      ⟨ending, pop, same⟩ | ⟨inside, others, same, element, more⟩
    · obtain ⟨rfl, rfl⟩ := List.cons.inj pop
      obtain ⟨keyTag, type⟩ := key
      subst ending
      exact ⟨opening ++ a, by rw [split, same, List.append_assoc],
        .cons keyTag outer [] opening a (.nil _) spelled closed⟩
    · cases more with
      | cons _ _ inner close outside elements closing left =>
        refine ⟨(opening ++ inside ++ inner) ++ close ++ outside, ?_, ?_⟩
        · simp only [split, same, List.append_assoc]
        · exact .cons tag outer (opening ++ inside ++ inner) close outside
            (.cons _ key opening inside inner spelled element elements) closing left

theorem skip_iff (limit : Nat) (key : Key) (b rest : Bytes) :
    skip limit key b = .ok rest ↔ ∃ body, b = body ++ rest ∧ SkippedBody limit 1 key body := by
  constructor
  · intro skipped
    rw [skip] at skipped
    cases step : skipElement limit [] key b with
    | error defect => simp [step] at skipped
    | ok found =>
      obtain ⟨left, after⟩ := found
      rw [step] at skipped
      obtain ⟨a, rfl, closed⟩ := skip_groups_sound limit left after rest skipped
      rcases closes_element limit [] left key b a rest step closed with
        ⟨_, pop, _⟩ | ⟨body, others, same, element, more⟩
      · simp at pop
      · cases more
        exact ⟨body, by simpa using same, element⟩
  · rintro ⟨body, rfl, skipped⟩
    have done := skip_inside_complete limit 1 [] key body rest skipped rfl
    rw [skipGroups] at done
    exact done

end SeriesCell
