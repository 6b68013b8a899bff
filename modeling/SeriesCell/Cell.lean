import SeriesCell.Text.Utf8
import SeriesCell.Time.Instant
import SeriesCell.Value

/- A cell is one column value of a time-series row, or NULL. The accessors never look at the kind:
   reading what a cell does not hold gives the default of what was asked for. -/
namespace SeriesCell

inductive Cell where
  | null
  | holding (v : Value)
deriving DecidableEq

namespace Cell

def kind : Cell → Option Kind
  | null => none
  | holding v => some v.kind

def has (c : Cell) (kind : Kind) : Bool := decide (c.kind = some kind)

def isNull (c : Cell) : Bool := c.kind.isNone

def ofText (text : List Char) : Cell := holding (.text (Utf8.encode text))

def ofBinary (bytes : Bytes) : Cell := holding (.text bytes)

def ofInstant (i : Instant) : Cell := holding (.timestamp i.millis)

def bytes : Cell → Bytes
  | holding (.text bytes) => bytes
  | _ => []

def text (c : Cell) : List Char := Utf8.decode c.bytes

def integer : Cell → Int64
  | holding (.integer v) => v
  | _ => 0

def float : Cell → Double
  | holding (.float v) => v
  | _ => Double.zero

def timestamp : Cell → Int64
  | holding (.timestamp millis) => millis
  | _ => 0

def boolean : Cell → Bool
  | holding (.boolean v) => v
  | _ => false

def instant? (c : Cell) : Option Instant := Instant.ofMillis? c.timestamp

def dateTime? (c : Cell) : Option DateTime := c.instant?.map Instant.dateTime

def same : Cell → Cell → Bool
  | null, null => true
  | holding v, holding w => v.same w
  | _, _ => false

def kindNumber : Cell → Nat
  | null => 0
  | holding (.text _) => 1
  | holding (.integer _) => 2
  | holding (.float _) => 3
  | holding (.timestamp _) => 4
  | holding (.boolean _) => 5

def hashFeed (c : Cell) : List Nat :=
  match c with
  | null => [c.kindNumber]
  | holding v => c.kindNumber :: v.hashFeed

end Cell

end SeriesCell
