import SeriesCell.Cell.Error
import SeriesCell.Tracing.Event

/- Cells to messages and back. A message without a value is NULL for the nullable readers and an
   error for the strict ones; of several values one wins, and the others are only reported. -/
namespace SeriesCell

namespace Cell

def message : Cell → Message
  | null => Message.empty
  | holding v => Message.empty.put v

def toMessage (c : Cell) : Traced Message := ⟨c.message, [.encoded c.kind]⟩

def encode (c : Cell) : Traced Bytes := c.toMessage.map Message.encode

end Cell

namespace Message

def presentCell (m : Message) : Traced Cell :=
  let cell := match m.preferred? with
    | some v => Cell.holding v
    | none => Cell.null
  let warning := if 1 < m.fieldCount then [Event.severalValues m.fieldCount] else []
  ⟨cell, warning ++ [.decoded cell.kind]⟩

def toCellNullable (m : Message) : Traced Cell :=
  if m.isEmpty then ⟨.null, [.decodedNull]⟩ else m.presentCell

def toCell (m : Message) : Traced (Except CellError Cell) :=
  if m.isEmpty then ⟨.error .noValue, [.rejectedEmpty]⟩ else m.presentCell.map .ok

end Message

namespace Cell

def decode (b : Bytes) : Traced (Except CellError Cell) :=
  match Message.decode b with
  | .ok m => m.toCell
  | .error e => ⟨.error (.malformed e), []⟩

def decodeNullable (b : Bytes) : Traced (Except CellError Cell) :=
  match Message.decode b with
  | .ok m => m.toCellNullable.map .ok
  | .error e => ⟨.error (.malformed e), []⟩

end Cell

end SeriesCell
