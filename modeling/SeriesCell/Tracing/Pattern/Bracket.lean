import SeriesCell.Tracing.Pattern.Atom

/- Classes in brackets: characters, ranges of them, classes by name, and further classes, all of
   which are united, and unions between which a doubled sign takes what they share or what divides
   them. A bracket that closes a class may come first as a member of it, and so may hyphens. -/
namespace SeriesCell.Pattern

def joined : List Nat → Nat
  | [] => 0
  | [depth] => depth
  | depths => depths.foldl max 0 + 1

-- A class that is still open: the depth of what stands before the latest doubled sign, and the
-- depths of the members after it.
structure Bracket where
  left : Option Nat
  members : List Nat
  atStart : Bool
deriving DecidableEq

namespace Bracket

def empty : Bracket := ⟨none, [], true⟩

def add (b : Bracket) (depth : Nat) : Bracket :=
  { b with members := depth :: b.members, atStart := false }

def depth (b : Bracket) : Nat :=
  match b.left with
  | some depth => max depth (joined b.members) + 1
  | none => joined b.members

def operate (b : Bracket) : Bracket := ⟨some b.depth, [], false⟩

def isClassName (name : List Char) : Bool :=
  ["alnum", "alpha", "ascii", "blank", "cntrl", "digit", "graph", "lower", "print", "punct",
    "space", "upper", "word", "xdigit"].contains (String.ofList name)

def readNamed? : List Char → Option (Bool × List Char)
  | ':' :: text =>
    let negated := text.head? = some '^'
    let body := if negated then text.drop 1 else text
    match body.dropWhile (· != ':') with
    | ':' :: ']' :: rest =>
      if isClassName (body.takeWhile (· != ':')) then some (negated, rest) else none
    | _ => none
  | _ => none

def readAtom (mode : Mode) : List Char → Option (Atom × List Char)
  | [] => none
  | '\\' :: rest => Atom.readEscape mode rest
  | c :: rest => some (.char c false, rest)

def isRange (mode : Mode) : Atom → Atom → Bool
  | .char low asByte, .char high asByte' =>
    (Atom.char low asByte).standsInClass mode && (Atom.char high asByte').standsInClass mode &&
    decide (low ≤ high)
  | _, _ => false

def readMember (mode : Mode) (text : List Char) : Option (List Char) :=
  match readAtom mode text with
  | none => none
  | some (low, rest) =>
    match mode.skip rest with
    | '-' :: after =>
      if mode.peek? after = some ']' ∨ mode.peek? after = some '-' then
        if low.standsInClass mode then some ('-' :: after) else none
      else
        match readAtom mode (mode.skip after) with
        | some (high, rest) => if isRange mode low high then some rest else none
        | none => none
    | rest => if low.standsInClass mode then some rest else none

-- The text behind an opening bracket, without the sign that negates. By bytes nothing is negated,
-- because bytes that are no characters would be left.
def enter (mode : Mode) (text : List Char) : Option (List Char) :=
  match mode.skip text with
  | '^' :: rest => if mode.unicode then some rest else none
  | rest => some rest

def readFrom (mode : Mode) : Nat → Bracket → List Bracket → List Char → Option (Nat × List Char)
  | 0, _, _, _ => none
  | steps + 1, inner, outer, text =>
    match mode.skip text with
    | [] => none
    | '[' :: rest =>
      match readNamed? rest with
      | some (negated, after) =>
        if mode.takesCharacters && (mode.unicode || !negated) then
          readFrom mode steps (inner.add 0) outer after
        else none
      | none =>
        match enter mode rest with
        | some after => readFrom mode steps empty (inner :: outer) after
        | none => none
    | c :: rest =>
      if inner.atStart && (c == '-' || c == ']' && inner.members.isEmpty) then
        if mode.takesCharacters then
          readFrom mode steps { inner.add 0 with atStart := c == '-' } outer rest
        else none
      else if c = ']' then
        match outer with
        | [] => some (inner.depth + 1, rest)
        | parent :: others => readFrom mode steps (parent.add (inner.depth + 1)) others rest
      else if (c = '&' ∨ c = '-' ∨ c = '~') ∧ rest.head? = some c then
        readFrom mode steps inner.operate outer (rest.drop 1)
      else
        match readMember mode (c :: rest) with
        | some after => readFrom mode steps (inner.add 0) outer after
        | none => none

def read (mode : Mode) (text : List Char) : Option (Nat × List Char) :=
  match enter mode text with
  | some inside => readFrom mode (inside.length + 1) empty [] inside
  | none => none

end Bracket

end SeriesCell.Pattern
