import SeriesCell.Cell.Display

namespace SeriesCell

inductive Level where
  | error
  | warn
  | info
  | debug
  | trace
deriving DecidableEq

def Level.name : Level → String
  | .error => "ERROR"
  | .warn => "WARN"
  | .info => "INFO"
  | .debug => "DEBUG"
  | .trace => "TRACE"

def Level.rank : Level → Nat
  | .error => 1
  | .warn => 2
  | .info => 3
  | .debug => 4
  | .trace => 5

inductive Event where
  | encoded (kind : Option Kind)
  | decodedNull
  | decoded (kind : Option Kind)
  | rejectedEmpty
  | severalValues (fields : Nat)
deriving DecidableEq

namespace Event

def target : String := "riak_ts_cell::timeseries::wire"

def level : Event → Level
  | encoded _ | decodedNull | decoded _ => .trace
  | rejectedEmpty => .debug
  | severalValues _ => .warn

def message : Event → String
  | encoded _ => "encoded cell"
  | decodedNull => "decoded NULL cell"
  | decoded _ => "decoded cell"
  | rejectedEmpty => "rejecting wire cell with no value"
  | severalValues _ => "wire cell carries more than one value, keeping the first by precedence"

def details : Event → List (String × String)
  | encoded kind | decoded kind => [("kind", kindName kind)]
  | decodedNull | rejectedEmpty => []
  | severalValues fields => [("fields", toString fields)]

def fieldNames (e : Event) : List String := "message" :: e.details.map Prod.fst

def text (e : Event) : String :=
  e.details.foldl (fun line (name, value) => line ++ " " ++ name ++ "=" ++ value) e.message

def summary (e : Event) : String := e.level.name ++ " " ++ e.text

-- The line of an event in the log, without the time stamp and the padding in front of the level.
def logLine (e : Event) : String := e.level.name ++ " " ++ target ++ ": " ++ e.text ++ "\n"

end Event

structure Traced (α : Type) where
  value : α
  events : List Event
deriving DecidableEq

def Traced.map (f : α → β) (t : Traced α) : Traced β := ⟨f t.value, t.events⟩

end SeriesCell
