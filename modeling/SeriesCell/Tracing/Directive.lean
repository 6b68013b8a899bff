import SeriesCell.Double.Literal
import SeriesCell.Text.Utf8
import SeriesCell.Tracing.Event
import SeriesCell.Tracing.Pattern

/- One directive of a log filter: `level`, `target`, `target=level`, or
   `target[span{field,field=value}]=level`, each part optional. What a directive does not name it
   does not restrict, and without a level it admits all. -/
namespace SeriesCell

-- Why a setting gives no filter. One that is cut inside a character is not refused: the program
-- stops there.
inductive SettingError where
  | unreadable
  | cutCharacter
deriving DecidableEq

structure FieldFilter where
  name : List Char
  hasValue : Bool
deriving DecidableEq

structure Directive where
  target : Option (List Char)
  span : Option (List Char)
  fields : List FieldFilter
  rank : Nat
deriving DecidableEq

namespace Directive

def unrestricted : Directive := ⟨none, none, [], Level.trace.rank⟩

def rankOf? (text : List Char) : Option Nat :=
  let digits := if text.head? = some '+' then text.drop 1 else text
  if !digits.isEmpty && digits.all Char.isDigit then
    let number := Nat.ofDigitChars 10 digits 0
    if number ≤ 5 then some number else none
  else
    let name := String.ofList (text.map Char.toLower)
    if name = "off" then some 0
    else if name = "error" then some Level.error.rank
    else if name = "warn" then some Level.warn.rank
    else if name = "info" then some Level.info.rank
    else if name = "debug" then some Level.debug.rank
    else if name = "trace" then some Level.trace.rank
    else none

inductive Place where
  | start
  | name (first : Nat)
  | span (first : Nat)
  | field (first : Nat)
  | fieldsEnd
  | spanEnd
  | level (first : Nat)
deriving DecidableEq

def mayStart (c : Char) : Bool :=
  c == '-' || c == ':' || c == '_' || isAlphanumeric c

def isFieldValue (text : List Char) : Bool :=
  match readFloat text with
  | .ok _ => true
  | .error _ => Pattern.isPattern text

def fieldFilter? (text : List Char) : Option FieldFilter :=
  let name := text.takeWhile (· != '=')
  match text.dropWhile (· != '=') with
  | _ :: rest => if isFieldValue (rest.takeWhile (· != '=')) then some ⟨name, true⟩ else none
  | [] => if text.isEmpty then none else some ⟨name, false⟩

def cut (whole : List Char) (first last : Nat) : Except SettingError (List Char) :=
  match Utf8.slice? whole first last with
  | some text => .ok text
  | none => .error .cutCharacter

def cutFrom (whole : List Char) (first : Nat) : Except SettingError (List Char) :=
  match Utf8.splitAt? first whole with
  | some (_, text) => .ok text
  | none => .error .cutCharacter

def withField (d : Directive) (text : List Char) : Except SettingError Directive :=
  match fieldFilter? text with
  | some field => .ok { d with fields := d.fields ++ [field] }
  | none => .error .unreadable

def step (whole : List Char) (position : Nat) (c : Char) :
    Place × Directive → Except SettingError (Place × Directive)
  | (.start, d) =>
    if c = '[' then .ok (.span (position + 1), d)
    else if mayStart c then .ok (.name position, d)
    else .error .unreadable
  | (.name first, d) =>
    if c = '=' ∨ c = '[' then
      (cut whole first position).map fun text =>
        (if c = '=' then .level (position + 1) else .span (position + 1),
          { d with target := some text })
    else .ok (.name first, d)
  | (.span first, d) =>
    if c = ']' then
      (cut whole first position).map fun text => (.spanEnd, { d with span := some text })
    else if c = '\x7b' then
      (cut whole first position).map fun text =>
        (.field (position + 1), { d with span := if text.isEmpty then none else some text })
    else .ok (.span first, d)
  | (.field first, d) =>
    if c = '\x7d' then
      ((cut whole first position).bind d.withField).map fun d => (.fieldsEnd, d)
    else .ok (.field first, d)
  | (.fieldsEnd, d) => if c = ']' then .ok (.spanEnd, d) else .error .unreadable
  | (.spanEnd, d) => if c = '=' then .ok (.level (position + 1), d) else .error .unreadable
  | (.level first, d) => .ok (.level first, d)

def scan (whole : List Char) :
    List Char → Nat → Place × Directive → Except SettingError (Place × Directive)
  | [], _, state => .ok state
  | c :: rest, position, state =>
    match step whole position c state with
    | .ok next => scan whole rest (position + c.utf8Size) next
    | .error e => .error e

def ofName (text : List Char) (d : Directive) : Directive :=
  match rankOf? text with
  | some rank => { d with rank := rank }
  | none => { d with target := some text }

def ofLevel (text : List Char) (d : Directive) : Except SettingError Directive :=
  if text.isEmpty then .ok d
  else
    match rankOf? text with
    | some rank => .ok { d with rank := rank }
    | none => .error .unreadable

def finish (whole : List Char) : Place × Directive → Except SettingError Directive
  | (.name first, d) => (cutFrom whole first).map fun text => ofName text d
  | (.level first, d) => (cutFrom whole first).bind fun text => ofLevel text d
  | (.spanEnd, d) => .ok d
  | _ => .error .unreadable

-- Positions are counted in bytes and without the blanks around a directive, but parts are cut from
-- the whole, so blanks in front move every part.
def read (whole : List Char) : Except SettingError Directive :=
  match scan whole (trimBlanks whole) 0 (.start, unrestricted) with
  | .ok state => finish whole state
  | .error e => .error e

def decidesEvents (d : Directive) : Bool := d.span.isNone && !d.fields.any FieldFilter.hasValue

def appliesTo (d : Directive) (e : Event) : Bool :=
  (match d.target with
    | some target => target.isPrefixOf Event.target.toList
    | none => true) &&
  d.fields.all fun field => e.fieldNames.contains (String.ofList field.name)

end Directive

end SeriesCell
