import SeriesCell.Proofs.Characters
import SeriesCell.Proofs.StampText

namespace SeriesCell

namespace Stamp

end Stamp

end SeriesCell
