import Sidecheck.Checker
import Sidecheck.Frame
import Sidecheck.Severity
/-!
# Diagnostics

What every checker's findings become: a message with, as far as the checker told, a file, a
range, a severity and the code frame of the range.
-/

namespace Sidecheck

/-- One finding of a checker. -/
structure Diagnostic where
  checker : Checker
  message : String
  /-- A note at the end; empty when there is none. -/
  conclusion : String := ""
  /-- The text of a stack trace. -/
  stack : Option String := none
  /-- The path or URI of the file, under which the diagnostic is stored. -/
  file : Option String := none
  /-- None if the checker's level is unknown. -/
  severity : Option Severity := none
  location : Option Location := none
  /-- The code frame for a terminal, and the same without styles. -/
  styledFrame : Option String := none
  plainFrame : Option String := none
deriving DecidableEq, Repr

namespace Diagnostic

/-- The diagnostic at a location of a text, with the frame that shows it there. -/
def locate (d : Diagnostic) (text : String) (l : Location) : Diagnostic :=
  let frame? := Frame.render? text l
  { d with
    location := some l
    styledFrame := frame?.map (·.styled)
    plainFrame := frame?.map (·.plain) }

end Diagnostic

end Sidecheck
