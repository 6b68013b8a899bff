import SeriesCell.Text.Alphanumeric
import SeriesCell.Tracing.Pattern.Bracket

/- Patterns that the value of a field may be matched with: sequences of atoms, classes and groups,
   each of which may be repeated, with bars between alternatives. Here it is only decided which
   texts are patterns. -/
namespace SeriesCell.Pattern

-- A group that is still open: the depths of the alternatives before the latest bar and of the
-- items after it, latest first, and whether the latest item can be repeated.
structure Group where
  mode : Mode
  alternatives : List Nat
  items : List Nat
  repeatable : Bool
deriving DecidableEq

namespace Group

def opened (mode : Mode) : Group := ⟨mode, [], [], false⟩

def add (g : Group) (depth : Nat) : Group :=
  { g with items := depth :: g.items, repeatable := true }

def depth (g : Group) : Nat := joined (joined g.items :: g.alternatives)

def setFlags (g : Group) (flags : List Char) : Group :=
  { g with mode := g.mode.change flags, items := 0 :: g.items, repeatable := false }

def alternate (g : Group) : Group :=
  { g with alternatives := joined g.items :: g.alternatives, items := [], repeatable := false }

def repeatLatest? (g : Group) : Option Group :=
  match g.items with
  | depth :: before => if g.repeatable then some { g with items := (depth + 1) :: before } else none
  | [] => none

end Group

structure Progress where
  inner : Group
  outer : List Group
  names : List (List Char)
deriving DecidableEq

namespace Progress

def enter (p : Progress) (mode : Mode) : Progress :=
  { p with inner := Group.opened mode, outer := p.inner :: p.outer }

def leave? (p : Progress) : Option Progress :=
  match p.outer with
  | parent :: others => some { p with inner := parent.add (p.inner.depth + 1), outer := others }
  | [] => none

def isName : List Char → Bool
  | [] => false
  | c :: rest =>
    (c == '_' || isAlphabetic c) &&
    rest.all fun c => ['_', '.', '[', ']'].contains c || isAlphanumeric c

def enterNamed (p : Progress) (text : List Char) : Option (Progress × List Char) :=
  let name := text.takeWhile (· != '>')
  match text.dropWhile (· != '>') with
  | _ :: rest =>
    if isName name && !p.names.contains name then
      some ({ p.enter p.inner.mode with names := name :: p.names }, rest)
    else none
  | [] => none

def enterFlagged (p : Progress) (text : List Char) : Option (Progress × List Char) :=
  let flags := text.takeWhile fun c => c != ':' && c != ')'
  if Mode.areFlags flags then
    match text.drop flags.length with
    | ':' :: rest => some (p.enter (p.inner.mode.change flags), rest)
    | _ :: rest =>
      if flags.isEmpty then none else some ({ p with inner := p.inner.setFlags flags }, rest)
    | [] => none
  else none

def enterGroup (p : Progress) (text : List Char) : Option (Progress × List Char) :=
  match p.inner.mode.skip text with
  | '?' :: 'P' :: '<' :: rest => p.enterNamed rest
  | '?' :: '<' :: rest => p.enterNamed rest
  | '?' :: rest => p.enterFlagged rest
  | rest => some (p.enter p.inner.mode, rest)

def addItem (p : Progress) (depth : Nat) : Progress := { p with inner := p.inner.add depth }

def addAtom? (p : Progress) (a : Atom) : Option Progress :=
  if a.standsAlone p.inner.mode then some (p.addItem 0) else none

-- A question mark right after a repetition makes it prefer few. Counts of repetitions have no
-- place in the value of a field, because the brace that closes them ends the field.
def step (p : Progress) : List Char → Option (Progress × List Char)
  | [] => none
  | c :: rest =>
    match c with
    | '(' => p.enterGroup rest
    | ')' => p.leave?.map fun q => (q, rest)
    | '|' => some ({ p with inner := p.inner.alternate }, rest)
    | '[' => (Bracket.read p.inner.mode rest).map fun (depth, after) => (p.addItem depth, after)
    | '?' | '*' | '+' =>
      p.inner.repeatLatest?.map fun g =>
        ({ p with inner := g }, if rest.head? = some '?' then rest.drop 1 else rest)
    | '\x7b' => none
    | '.' => if p.inner.mode.unicode then some (p.addItem 0, rest) else none
    | '^' | '$' => some (p.addItem 0, rest)
    | '\\' =>
      match Atom.readEscape p.inner.mode rest with
      | some (a, after) => (p.addAtom? a).map fun q => (q, after)
      | none => none
    | _ => (p.addAtom? (.char c false)).map fun q => (q, rest)

def readFrom : Nat → Progress → List Char → Option Progress
  | 0, _, _ => none
  | steps + 1, p, text =>
    match p.inner.mode.skip text with
    | [] => some p
    | c :: rest =>
      match p.step (c :: rest) with
      | some (q, after) => readFrom steps q after
      | none => none

end Progress

def depthLimit : Nat := 250

def isPattern (text : List Char) : Bool :=
  match Progress.readFrom (text.length + 1) ⟨Group.opened Mode.plain, [], []⟩ text with
  | some p => p.outer.isEmpty && decide (p.inner.depth ≤ depthLimit)
  | none => false

end SeriesCell.Pattern
