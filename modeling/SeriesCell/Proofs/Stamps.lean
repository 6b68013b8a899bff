import SeriesCell.Proofs.Timestamps

namespace SeriesCell

def padded (width n : Nat) : List Char := (Nat.toDigits 10 n).leftpad width '0'

namespace DateTime

def parts (d : DateTime) (east : Int) : Stamp.Parts :=
  ⟨d.date, d.hour, d.minute, d.second, padded 3 (d.nanosecond / 1000000), east⟩

end DateTime

end SeriesCell
