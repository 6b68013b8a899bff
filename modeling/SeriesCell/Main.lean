import SeriesCell.CommandLine

open SeriesCell in
def main (arguments : List String) : IO UInt32 := do
  let setting ← IO.getEnv "RUST_LOG"
  let outcome := CommandLine.run (setting.map String.toList) (arguments.map String.toList)
  match outcome with
  | .finished _ output errors =>
    (← IO.getStderr).putStr errors
    (← IO.getStdout).putStr output
  | .crashed => pure ()
  return UInt32.ofNat outcome.exitCode
