import SeriesCell.Bytes
import SeriesCell.Bisection
import SeriesCell.Double
import SeriesCell.Double.Rounding
import SeriesCell.Double.Shortest
import SeriesCell.Double.Layout
import SeriesCell.Double.Exponential
import SeriesCell.Double.Literal
import SeriesCell.Text.Numeral
import SeriesCell.Value
import SeriesCell.Message
import SeriesCell.Protobuf.Varint
import SeriesCell.Protobuf.Number
import SeriesCell.Protobuf.Defect
import SeriesCell.Protobuf.Element
import SeriesCell.Message.Encoding
import SeriesCell.Message.Decoding
import SeriesCell.Text.Utf8
import SeriesCell.Text.Alphanumeric
import SeriesCell.Text.Blank
import SeriesCell.Text.Unprintable
import SeriesCell.Text.Quoted
import SeriesCell.Text.Hex
import SeriesCell.Text.Radix
import SeriesCell.Time.Calendar
import SeriesCell.Time.Instant
import SeriesCell.Time.Stamp
import SeriesCell.Cell
import SeriesCell.Cell.Display
import SeriesCell.Cell.Error
import SeriesCell.Cell.Nullable
import SeriesCell.Tracing.Event
import SeriesCell.Cell.Codec
import SeriesCell.Cell.Literal
import SeriesCell.Tracing.Pattern.Mode
import SeriesCell.Tracing.Pattern.Atom
import SeriesCell.Tracing.Pattern.Bracket
import SeriesCell.Tracing.Pattern
import SeriesCell.Tracing.Directive
import SeriesCell.Tracing.Filter
import SeriesCell.CommandLine
import SeriesCell.Main
import SeriesCell.Proofs.Spelling
import SeriesCell.Proofs.Skipping
import SeriesCell.Proofs.Numbers
import SeriesCell.Proofs.Records
import SeriesCell.Proofs.Merging
import SeriesCell.Proofs.Acceptance
import SeriesCell.Proofs.RoundTrip
import SeriesCell.Proofs.Sameness
import SeriesCell.Proofs.Concatenation
import SeriesCell.Proofs.FailedMerge
import SeriesCell.Proofs.Messages
import SeriesCell.Proofs.Framing
import SeriesCell.Proofs.Torn
import SeriesCell.Proofs.Events
import SeriesCell.Proofs.Canonical
import SeriesCell.Proofs.Numerals
import SeriesCell.Proofs.Characters
import SeriesCell.Proofs.Underway
import SeriesCell.Proofs.Repair
import SeriesCell.Proofs.Nearest
import SeriesCell.Proofs.Shortest
import SeriesCell.Proofs.FloatText
import SeriesCell.Proofs.Display
import SeriesCell.Proofs.Truncation
import SeriesCell.Proofs.Magnitudes
import SeriesCell.Proofs.FloatLayout
import SeriesCell.Proofs.Strictness
import SeriesCell.Proofs.Calendar
import SeriesCell.Proofs.Instants
import SeriesCell.Proofs.Milliseconds
import SeriesCell.Proofs.StampText
import SeriesCell.Proofs.StampReaders
import SeriesCell.Proofs.Timestamps
import SeriesCell.Proofs.Stamps
import SeriesCell.Proofs.Hexadecimal
import SeriesCell.Proofs.Quoting
import SeriesCell.Proofs.HexText
import SeriesCell.Proofs.Settings
import SeriesCell.Proofs.Commands
