import SeriesCell.Text.Blank

namespace SeriesCell.Pattern

structure Mode where
  caseless : Bool
  unicode : Bool
  spaced : Bool
deriving DecidableEq

namespace Mode

def plain : Mode := ⟨false, true, false⟩

def dropSpace (inComment : Bool) : List Char → List Char
  | [] => []
  | c :: rest =>
    if inComment then dropSpace (c != '\n') rest
    else if isBlank c then dropSpace false rest
    else if c = '#' then dropSpace true rest
    else c :: rest

def skip (mode : Mode) (text : List Char) : List Char :=
  if mode.spaced then dropSpace false text else text

-- The character that decides whether a hyphen makes a range. A comment before it is not skipped
-- but only its sign and the blanks after that.
def peek? (mode : Mode) (text : List Char) : Option Char :=
  if mode.spaced then
    match text.dropWhile isBlank with
    | '#' :: rest => (rest.dropWhile isBlank).head?
    | rest => rest.head?
  else text.head?

def areFlags (flags : List Char) : Bool :=
  flags.all (fun c => ['i', 'm', 's', 'U', 'u', 'R', 'x', '-'].contains c && flags.count c == 1) &&
  flags.getLast? != some '-'

def change (mode : Mode) (flags : List Char) : Mode :=
  let given (c : Char) (old : Bool) :=
    if (flags.takeWhile (· != '-')).contains c then true
    else if flags.contains c then false
    else old
  ⟨given 'i' mode.caseless, given 'u' mode.unicode, given 'x' mode.spaced⟩

-- Letter case is known for bytes only, so a caseless pattern by characters may hold no character.
def takesCharacters (mode : Mode) : Bool := !(mode.caseless && mode.unicode)

end Mode

end SeriesCell.Pattern
