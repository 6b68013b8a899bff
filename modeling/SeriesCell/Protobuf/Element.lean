import SeriesCell.Protobuf.Defect
import SeriesCell.Protobuf.Varint

/- Elements of a protobuf message as far as they can be read without knowing the message: a key,
   and a body that is skipped by its wire type alone. Groups nest; `limit` is how many levels of
   elements may lie inside each other. -/
namespace SeriesCell

structure Key where
  tag : Nat
  type : WireType
deriving DecidableEq

def Key.code (key : Key) : Nat := key.tag * 8 + key.type.code

def Key.write (key : Key) : Bytes := Varint.write key.code

def Key.read (b : Bytes) : Except Defect (Key × Bytes) :=
  match Varint.read b with
  | none => .error .badVarint
  | some (n, rest) =>
    if 0xFFFFFFFF < n then .error (.keyTooLarge n)
    else
      match WireType.ofCode? (n % 8) with
      | none => .error (.unknownWireType (n % 8))
      | some type => if n / 8 = 0 then .error .tagZero else .ok (⟨n / 8, type⟩, rest)

theorem Key.read_shorter {b rest : Bytes} {key : Key} (h : Key.read b = .ok (key, rest)) :
    rest.length < b.length := by
  unfold Key.read at h
  split at h
  · simp at h
  · rename_i n after found
    have shorter := Varint.read_shorter found
    split at h
    · simp at h
    · split at h
      · simp at h
      · split at h
        · simp at h
        · simp only [Except.ok.injEq, Prod.mk.injEq] at h
          rwa [← h.2]

def skipBytes (count : Nat) (b : Bytes) : Except Defect Bytes :=
  match b.split? count with
  | some (_, rest) => .ok rest
  | none => .error .underflow

def skipPlain (type : WireType) (b : Bytes) : Except Defect Bytes :=
  match type with
  | .varint =>
    match Varint.read b with
    | some (_, rest) => .ok rest
    | none => .error .badVarint
  | .delimited =>
    match Varint.read b with
    | some (count, rest) => skipBytes count rest
    | none => .error .badVarint
  | .fixed64 => skipBytes 8 b
  | .fixed32 => skipBytes 4 b
  | .groupStart | .groupEnd => .error .strayGroupEnd

theorem WireType.code_lt (type : WireType) : type.code < 8 := by
  cases type <;> decide

theorem Key.read_write (key : Key) (rest : Bytes) (named : key.tag ≠ 0)
    (bound : key.code ≤ 0xFFFFFFFF) : Key.read (key.write ++ rest) = .ok (key, rest) := by
  have small := key.type.code_lt
  have type : key.code % 8 = key.type.code := by unfold Key.code; omega
  have tag : key.code / 8 = key.tag := by unfold Key.code; omega
  unfold Key.read Key.write
  rw [Varint.read_write _ _ (by omega)]
  simp only [type, tag, WireType.of_code_code]
  rw [if_neg (by omega), if_neg named]

-- Skips what follows `key`, inside the groups whose tags are `opened`, innermost first. A group
-- start only opens its group, and a group end closes the innermost one.
def skipElement (limit : Nat) (opened : List Nat) (key : Key) (b : Bytes) :
    Except Defect (List Nat × Bytes) :=
  match key.type with
  | .groupEnd =>
    match opened with
    | tag :: outer => if key.tag = tag then .ok (outer, b) else .error .strayGroupEnd
    | [] => .error .strayGroupEnd
  | type =>
    if limit ≤ opened.length then .error .tooDeep
    else if type = .groupStart then .ok (key.tag :: opened, b)
    else
      match skipPlain type b with
      | .ok rest => .ok (opened, rest)
      | .error defect => .error defect

theorem skip_bytes_shorter {count : Nat} {b rest : Bytes} (h : skipBytes count b = .ok rest) :
    rest.length ≤ b.length := by
  unfold skipBytes at h
  split at h
  · rename_i taken after found
    simp only [Except.ok.injEq] at h
    have parts := (Bytes.split?_eq_some found).1
    simp [parts, h]
  · simp at h

theorem skip_plain_shorter {type : WireType} {b rest : Bytes} (h : skipPlain type b = .ok rest) :
    rest.length ≤ b.length := by
  cases type with
  | varint =>
    simp only [skipPlain] at h
    split at h
    · rename_i n after found
      simp only [Except.ok.injEq] at h
      exact h ▸ Nat.le_of_lt (Varint.read_shorter found)
    · simp at h
  | delimited =>
    simp only [skipPlain] at h
    split at h
    · rename_i count after found
      exact Nat.le_trans (skip_bytes_shorter h) (Nat.le_of_lt (Varint.read_shorter found))
    · simp at h
  | fixed64 => exact skip_bytes_shorter h
  | fixed32 => exact skip_bytes_shorter h
  | groupStart => simp [skipPlain] at h
  | groupEnd => simp [skipPlain] at h

theorem skip_element_shorter {limit : Nat} {opened left : List Nat} {key : Key} {b rest : Bytes}
    (h : skipElement limit opened key b = .ok (left, rest)) : rest.length ≤ b.length := by
  unfold skipElement at h
  split at h
  · split at h
    · split at h
      · simp only [Except.ok.injEq, Prod.mk.injEq] at h
        simp [h.2]
      · simp at h
    · simp at h
  · split at h
    · simp at h
    · split at h
      · simp only [Except.ok.injEq, Prod.mk.injEq] at h
        simp [h.2]
      · split at h
        · rename_i after found
          simp only [Except.ok.injEq, Prod.mk.injEq] at h
          exact h.2 ▸ skip_plain_shorter found
        · simp at h

def skipGroups (limit : Nat) (opened : List Nat) (b : Bytes) : Except Defect Bytes :=
  match opened with
  | [] => .ok b
  | tag :: outer =>
    match _ : Key.read b with
    | .error defect => .error defect
    | .ok (key, body) =>
      match _ : skipElement limit (tag :: outer) key body with
      | .error defect => .error defect
      | .ok (left, rest) => skipGroups limit left rest
termination_by b.length
decreasing_by exact Nat.lt_of_le_of_lt (skip_element_shorter ‹_›) (Key.read_shorter ‹_›)

def skip (limit : Nat) (key : Key) (b : Bytes) : Except Defect Bytes :=
  match skipElement limit [] key b with
  | .error defect => .error defect
  | .ok (opened, rest) => skipGroups limit opened rest

theorem skip_groups_shorter {limit : Nat} {opened : List Nat} {b rest : Bytes}
    (h : skipGroups limit opened b = .ok rest) : rest.length ≤ b.length := by
  fun_induction skipGroups limit opened b with
  | case1 b => simp only [Except.ok.injEq] at h; simp [h]
  | case2 => simp at h
  | case3 => simp at h
  | case4 b tag outer key body keyRead left after skipped ih =>
    exact Nat.le_trans (ih h)
      (Nat.le_trans (skip_element_shorter skipped) (Nat.le_of_lt (Key.read_shorter keyRead)))

theorem skip_shorter {limit : Nat} {key : Key} {b rest : Bytes} (h : skip limit key b = .ok rest) :
    rest.length ≤ b.length := by
  unfold skip at h
  split at h
  · simp at h
  · rename_i opened after found
    exact Nat.le_trans (skip_groups_shorter h) (skip_element_shorter found)

end SeriesCell
