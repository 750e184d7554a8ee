import PathEdit.Command.Program

/-! The program: it takes its words and its input from the system, and prints. -/

open PathEdit.Command

/-- Reads the standard input only for a request that needs it. -/
def main (words : List String) : IO UInt32 := do
  let input ←
    if (Request.parse? false words).any Request.readsInput then (← IO.getStdin).readToEnd
    else pure ""
  let outcome := invoke words input
  (← IO.getStdout).putStr outcome.stdout
  (← IO.getStderr).putStr outcome.stderr
  return UInt32.ofNat outcome.code
