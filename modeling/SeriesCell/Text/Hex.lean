import SeriesCell.Text.Quoted
import SeriesCell.Text.Utf8

namespace SeriesCell.Hex

def digit (value : Nat) : Char := Nat.digitChar value

def write (b : Bytes) : List Char :=
  b.flatMap fun byte => [digit (byte.toNat / 16), digit (byte.toNat % 16)]

def digitValue? (byte : UInt8) : Option Nat :=
  if 0x30 ≤ byte ∧ byte ≤ 0x39 then some (byte.toNat - 0x30)
  else if 0x61 ≤ byte ∧ byte ≤ 0x66 then some (byte.toNat - 0x61 + 10)
  else if 0x41 ≤ byte ∧ byte ≤ 0x46 then some (byte.toNat - 0x41 + 10)
  else none

inductive Error where
  | oddLength (text : List Char)
  | badPair (first second : UInt8)
deriving DecidableEq

def Error.message : Error → String
  | .oddLength text => "odd number of hex digits in " ++ quote text
  | .badPair first second => "invalid hex byte " ++ quote (Utf8.decode [first, second])

def pairs : Bytes → Option (List (UInt8 × UInt8))
  | [] => some []
  | [_] => none
  | first :: second :: rest => (pairs rest).map ((first, second) :: ·)

def readPair (pair : UInt8 × UInt8) : Except Error UInt8 :=
  match digitValue? pair.1, digitValue? pair.2 with
  | some high, some low => .ok (UInt8.ofNat (high * 16 + low))
  | _, _ => .error (.badPair pair.1 pair.2)

def readPairs : List (UInt8 × UInt8) → Except Error Bytes
  | [] => .ok []
  | pair :: rest =>
    match readPair pair with
    | .error e => .error e
    | .ok byte =>
      match readPairs rest with
      | .error e => .error e
      | .ok bytes => .ok (byte :: bytes)

def read (text : List Char) : Except Error Bytes :=
  match pairs (Utf8.encode text) with
  | none => .error (.oddLength text)
  | some parts => readPairs parts

end SeriesCell.Hex
