import SeriesCell.Message.Decoding

namespace SeriesCell

inductive CellError where
  | absentText
  | absentBinary
  | absentInstant
  | noValue
  | malformed (e : DecodeError)
deriving DecidableEq

def CellError.message : CellError → String
  | .absentText => "invalid argument: String value cannot be NULL."
  | .absentBinary => "invalid argument: Binary value cannot be NULL."
  | .absentInstant => "invalid argument: Date object for timestamp value cannot be NULL."
  | .noValue => "invalid argument: Unknown PB Cell encountered."
  | .malformed e => "malformed wire cell: " ++ e.message

def CellError.cause? : CellError → Option String
  | .malformed e => some e.message
  | _ => none

end SeriesCell
