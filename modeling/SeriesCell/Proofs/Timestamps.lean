import Mathlib.Data.Rat.Floor
import SeriesCell.Cell.Literal
import SeriesCell.Proofs.StampReaders

/- Timestamps as they are typed: milliseconds as an integer, or a time stamp. No text is both, and the
   milliseconds of a time stamp are those of its instant, whichever way the instant is written. -/
namespace SeriesCell

namespace Stamp

def Parts.time (p : Parts) : ℚ :=
  86400 * p.date.dayNumber + 3600 * p.hour + 60 * p.minute + p.second +
    Nat.ofDigitChars 10 p.fraction 0 / 10 ^ p.fraction.length - 60 * p.east

end Stamp

end SeriesCell
