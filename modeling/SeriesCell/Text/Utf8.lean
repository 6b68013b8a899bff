import SeriesCell.Bytes

/- Text and its UTF-8 bytes. Reading accepts every byte string: each longest start of a character
   that cannot be completed, and each byte that starts none, becomes one replacement character. -/
namespace SeriesCell.Utf8

def encode (text : List Char) : Bytes := text.flatMap String.utf8EncodeChar

def splitAt? : Nat → List Char → Option (List Char × List Char)
  | 0, text => some ([], text)
  | _ + 1, [] => none
  | bytes + 1, c :: rest =>
    if c.utf8Size ≤ bytes + 1 then
      (splitAt? (bytes + 1 - c.utf8Size) rest).map fun (before, after) => (c :: before, after)
    else none

def slice? (text : List Char) (first last : Nat) : Option (List Char) :=
  match splitAt? first text with
  | some (_, after) => (splitAt? (last - first) after).map Prod.fst
  | none => none

def positions : Nat → List Char → List (Nat × Char)
  | _, [] => []
  | first, c :: rest => (first, c) :: positions (first + c.utf8Size) rest

theorem length_encode_cons (c : Char) (rest : List Char) :
    (encode (c :: rest)).length = c.utf8Size + (encode rest).length := by
  simp [encode]

theorem split_at_length_encode (before after : List Char) :
    splitAt? (encode before).length (before ++ after) = some (before, after) := by
  induction before with
  | nil => simp [splitAt?, encode]
  | cons c before ih =>
    have positive := c.utf8Size_pos
    obtain ⟨bytes, same⟩ : ∃ bytes, c.utf8Size + (encode before).length = bytes + 1 :=
      ⟨c.utf8Size + (encode before).length - 1, by omega⟩
    rw [length_encode_cons, same, List.cons_append, splitAt?, if_pos (by omega)]
    rw [show bytes + 1 - c.utf8Size = (encode before).length by omega, ih]
    rfl

def replacement : Char := '\uFFFD'

-- Where the reader stands. Inside a character it knows the range of the next byte, how many more
-- follow that one, and the code point so far.
inductive State where
  | between
  | inside (more : Nat) (low high : UInt8) (code : Nat)
deriving DecidableEq

-- The first byte of a character. The range of the second byte excludes overlong forms, surrogates
-- and what lies above the last code point.
def start (byte : UInt8) : List Char × State :=
  if byte < 0x80 then ([Char.ofNat byte.toNat], .between)
  else if byte < 0xC2 then ([replacement], .between)
  else if byte < 0xE0 then ([], .inside 0 0x80 0xBF (byte.toNat % 32))
  else if byte = 0xE0 then ([], .inside 1 0xA0 0xBF 0)
  else if byte = 0xED then ([], .inside 1 0x80 0x9F 13)
  else if byte < 0xF0 then ([], .inside 1 0x80 0xBF (byte.toNat % 16))
  else if byte = 0xF0 then ([], .inside 2 0x90 0xBF 0)
  else if byte < 0xF4 then ([], .inside 2 0x80 0xBF (byte.toNat % 8))
  else if byte = 0xF4 then ([], .inside 2 0x80 0x8F 4)
  else ([replacement], .between)

def step : State → UInt8 → List Char × State
  | .between, byte => start byte
  | .inside more low high code, byte =>
    if low ≤ byte ∧ byte ≤ high then
      let code := code * 64 + byte.toNat % 64
      match more with
      | 0 => ([Char.ofNat code], .between)
      | more + 1 => ([], .inside more 0x80 0xBF code)
    else
      -- The character is cut off, and this byte may start the next one.
      let (out, next) := start byte
      (replacement :: out, next)

def finish : State → List Char
  | .between => []
  | .inside .. => [replacement]

def decodeFrom : State → Bytes → List Char
  | state, [] => finish state
  | state, byte :: rest =>
    let (out, next) := step state byte
    out ++ decodeFrom next rest

def decode (b : Bytes) : List Char := decodeFrom .between b

end SeriesCell.Utf8
