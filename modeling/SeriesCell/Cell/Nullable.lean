import SeriesCell.Cell
import SeriesCell.Cell.Error

namespace SeriesCell.Cell

def ofText? : Option (List Char) → Except CellError Cell
  | some text => .ok (ofText text)
  | none => .error .absentText

def ofBinary? : Option Bytes → Except CellError Cell
  | some bytes => .ok (ofBinary bytes)
  | none => .error .absentBinary

def ofInstant? : Option Instant → Except CellError Cell
  | some i => .ok (ofInstant i)
  | none => .error .absentInstant

end SeriesCell.Cell
