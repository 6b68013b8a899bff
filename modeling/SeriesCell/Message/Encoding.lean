import SeriesCell.Message
import SeriesCell.Protobuf.Element
import SeriesCell.Protobuf.Number

namespace SeriesCell

def Kind.tag : Kind → Nat
  | .text => 1
  | .integer => 2
  | .timestamp => 3
  | .boolean => 4
  | .float => 5

def Kind.wireType : Kind → WireType
  | .text => .delimited
  | .integer => .varint
  | .timestamp => .varint
  | .boolean => .varint
  | .float => .fixed64

def Kind.key (kind : Kind) : Key := ⟨kind.tag, kind.wireType⟩

def Value.writeBody : Value → Bytes
  | .text bytes => Varint.write bytes.length ++ bytes
  | .integer v => Varint.write (ZigZag.encode v.toInt)
  | .timestamp millis => Varint.write (ZigZag.encode millis.toInt)
  | .boolean v => Varint.write v.toNat
  | .float v => LittleEndian.write 8 v.bits.toNat

def Value.write (v : Value) : Bytes := v.kind.key.write ++ v.writeBody

def Value.bodySize : Value → Nat
  | .text bytes => Varint.size bytes.length + bytes.length
  | .integer v => Varint.size (ZigZag.encode v.toInt)
  | .timestamp millis => Varint.size (ZigZag.encode millis.toInt)
  | .boolean _ => 1
  | .float _ => 8

def Value.size (v : Value) : Nat := Varint.size v.kind.key.code + v.bodySize

namespace Message

def encode (m : Message) : Bytes := m.values.flatMap Value.write

def encodedSize (m : Message) : Nat := m.values.foldr (fun v total => v.size + total) 0

def encodeDelimited (m : Message) : Bytes := Varint.write m.encodedSize ++ m.encode

end Message

end SeriesCell
