import SeriesCell.Text.Utf8
import SeriesCell.Time.Instant

/- Time stamps in the notation of RFC 3339, such as `2015-03-04T09:15:00.25+01:00`. The bytes are
   judged from left to right, and the first fault decides the error. -/
namespace SeriesCell

inductive StampError where
  | tooShort
  | invalid
  | outOfRange
  | trailing
deriving DecidableEq

def StampError.message : StampError → String
  | .tooShort => "premature end of input"
  | .invalid => "input contains invalid characters"
  | .outOfRange => "input is out of range"
  | .trailing => "trailing input"

namespace Stamp

def isDigit (byte : UInt8) : Bool := decide (0x30 ≤ byte) && decide (byte ≤ 0x39)

def digits : Nat → Nat → Bytes → Except StampError (Nat × Bytes)
  | 0, total, b => .ok (total, b)
  | count + 1, total, byte :: rest =>
    if isDigit byte then digits count (total * 10 + (byte.toNat - 0x30)) rest else .error .invalid
  | _ + 1, _, [] => .error .invalid

def mark (accepted : List UInt8) : Bytes → Except StampError Bytes
  | byte :: rest => if accepted.contains byte then .ok rest else .error .invalid
  | [] => .error .invalid

def dash : List UInt8 := [0x2d]

def colon : List UInt8 := [0x3a]

def dateEnd : List UInt8 := [0x54, 0x74, 0x20]

def date (b : Bytes) : Except StampError (Date × Bytes) := do
  let (year, b) ← digits 4 0 b
  let b ← mark dash b
  let (month, b) ← digits 2 0 b
  let b ← mark dash b
  let (day, b) ← digits 2 0 b
  let d : Date := ⟨year, month, day⟩
  if d.isValid then .ok (d, b) else .error .outOfRange

def fraction : Bytes → Except StampError (Nat × Bytes)
  | [] => .ok (0, [])
  | byte :: rest =>
    if byte = 0x2e then
      match rest with
      | [] => .error .tooShort
      | first :: _ =>
        if isDigit first then do
          let nine := (rest.takeWhile isDigit ++ List.replicate 9 0x30).take 9
          let (nanos, _) ← digits 9 0 nine
          .ok (nanos, rest.dropWhile isDigit)
        else .error .invalid
    else .ok (0, byte :: rest)

-- Seconds of the day and nanoseconds. Second 60 is the second after 59 as part of it.
def time (b : Bytes) : Except StampError (Nat × Nat × Bytes) := do
  let (hour, b) ← digits 2 0 b
  let b ← mark colon b
  let (minute, b) ← digits 2 0 b
  let b ← mark colon b
  let (second, b) ← digits 2 0 b
  let (nanos, b) ← fraction b
  if hour < 24 ∧ minute < 60 ∧ second < 60 then
    .ok (hour * 3600 + minute * 60 + second, nanos, b)
  else if hour < 24 ∧ minute < 60 ∧ second = 60 then
    .ok (hour * 3600 + minute * 60 + 59, nanos + 1000000000, b)
  else .error .outOfRange

def twoDigits (b : Bytes) : Except StampError (Nat × Bytes) :=
  if b.length < 2 then .error .tooShort else digits 2 0 b

def offset (b : Bytes) : Except StampError (Nat × Bytes) := do
  let (hours, b) ← twoDigits b
  let b ← if b.isEmpty then .error .tooShort else mark colon b
  let (minutes, b) ← twoDigits b
  if minutes < 60 then .ok (hours * 3600 + minutes * 60, b) else .error .outOfRange

def zone (b : Bytes) : Except StampError (Int × Bytes) :=
  match b with
  | [] => .error .tooShort
  | 0x5a :: rest | 0x7a :: rest => .ok (0, rest)
  | 0x2b :: rest => do
    let (east, b) ← offset rest
    .ok (east, b)
  | 0x2d :: rest | 0xe2 :: 0x88 :: 0x92 :: rest => do
    let (west, b) ← offset rest
    .ok (-west, b)
  | _ => .error .invalid

def ofBytes (b : Bytes) : Except StampError Instant := do
  if b.length < 19 then .error .tooShort
  let (day, b) ← date b
  let b ← mark dateEnd b
  let (second, nanos, b) ← time b
  let (east, b) ← zone b
  if !b.isEmpty then .error .trailing
  if 86400 ≤ east.natAbs then .error .outOfRange
  match Instant.ofUnix? (day.dayNumber * 86400 + second - east) nanos with
  | some instant => .ok instant
  | none => .error .outOfRange

def read (text : List Char) : Except StampError Instant := ofBytes (Utf8.encode text)

end Stamp

end SeriesCell
