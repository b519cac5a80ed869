import Sidecheck.Cli
import Sidecheck.Snapshot
/-!
# The program

It takes the options as its arguments and a snapshot of the machine from standard input. What a
run prints goes to standard output, and why it ended to standard error.
-/

/-- Runs on the machine that standard input describes. -/
def main (args : List String) : IO UInt32 := do
  let text ← (← IO.getStdin).readToEnd
  match Sidecheck.Snapshot.ofText? text with
  | none =>
    IO.eprintln "standard input holds no snapshot of a machine"
    return 2
  | some machine =>
    let finish := Sidecheck.Cli.run machine args
    IO.print finish.out
    finish.complaint.forM (IO.eprintln ·)
    return UInt32.ofNat finish.code
