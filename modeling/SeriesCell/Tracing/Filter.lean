import SeriesCell.Tracing.Directive

/- Log filters: directives between commas. Of those that apply to an event the most specific one
   decides, by its level, whether the event is shown. -/
namespace SeriesCell

structure Filter where
  directives : List Directive
deriving DecidableEq

namespace Filter

def compareDirectives (d e : Directive) : Ordering :=
  let length (target : Option (List Char)) := match target with
    | some text => text.length + 1
    | none => 0
  let names (d : Directive) := d.fields.map FieldFilter.name
  (compare (length d.target) (length e.target)).then
    ((compare d.fields.length e.fields.length).then
      ((compare (d.target.getD []) (e.target.getD [])).then (compare (names d) (names e))))

def mostSpecific (directives : List Directive) : Option Directive :=
  directives.foldl
    (fun best d =>
      match best with
      | none => some d
      | some e => if compareDirectives d e = .lt then some e else some d)
    none

def shows (filter : Filter) (e : Event) : Bool :=
  let applying := filter.directives.filter fun d => d.decidesEvents && d.appliesTo e
  match mostSpecific applying with
  | some d => decide (e.level.rank ≤ d.rank)
  | none => false

def standard : Filter := ⟨[{ Directive.unrestricted with rank := Level.warn.rank }]⟩

def splitAtCommas : List Char → List (List Char)
  | [] => [[]]
  | c :: rest =>
    match splitAtCommas rest with
    | part :: parts => if c = ',' then [] :: part :: parts else (c :: part) :: parts
    | [] => [[c]]

def readAll : List (List Char) → Except SettingError (List Directive)
  | [] => .ok []
  | part :: parts =>
    match Directive.read part with
    | .error e => .error e
    | .ok d =>
      match readAll parts with
      | .error e => .error e
      | .ok ds => .ok (d :: ds)

def read (text : List Char) : Except SettingError Filter :=
  (readAll ((splitAtCommas text).filter fun part => !part.isEmpty)).map Filter.mk

-- The filter of a setting, unless the program stops while it reads it. A setting that cannot be
-- read counts as none.
def ofSetting : Option (List Char) → Option Filter
  | none => some standard
  | some text =>
    match read text with
    | .ok filter => some filter
    | .error .unreadable => some standard
    | .error .cutCharacter => none

def log (filter : Filter) (events : List Event) : String :=
  String.join ((events.filter filter.shows).map Event.logLine)

end Filter

end SeriesCell
