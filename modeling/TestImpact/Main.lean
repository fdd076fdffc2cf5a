import TestImpact.CommandLine.Snapshot
import TestImpact.Json.Reader

/-!
# The `tia` program

Reads a snapshot as JSON from the standard input and carries out its command line on it.
-/

namespace TestImpact

/-- Reads all lines of a stream. -/
partial def readAll (stream : IO.FS.Stream) (text : String) : IO String := do
  let line ← stream.getLine
  if line.isEmpty then pure text else readAll stream (text ++ line)

end TestImpact

open TestImpact in
def main (words : List String) : IO UInt32 := do
  let text ← readAll (← IO.getStdin) ""
  match Json.read? .standard text with
  | none => do
    (← IO.getStderr).putStrLn "The snapshot on the standard input is no JSON."
    pure 2
  | some value => do
    let outcome := (CommandLine.Snapshot.ofData value).run words
    (← IO.getStdout).putStr outcome.desk.terminal.output
    (← IO.getStderr).putStr (outcome.desk.terminal.errors ++ outcome.ending.report)
    pure outcome.ending.byte
