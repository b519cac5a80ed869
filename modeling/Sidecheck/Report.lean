import Sidecheck.Payload
import Sidecheck.Store
/-!
# Reports

A report shows what the store holds, as far as its levels are wanted: a block of text for each
diagnostic and a summary line for the terminal, and one payload for the overlay. Both, and the
summary, are made from the same list.
-/

namespace Sidecheck

/-- Keeps the diagnostics of the given levels, or of all levels. One without a level is never
kept. -/
def filterLevels (levels : Option (List Severity)) (ds : List Diagnostic) : List Diagnostic :=
  let wanted := levels.getD Severity.all
  ds.filter fun d => d.severity.any (wanted.contains ·)

/-- The number of diagnostics of one level. -/
def countLevel (level : Severity) (ds : List Diagnostic) : Nat :=
  ds.countP (·.severity = some level)

/-- How many errors and warnings a report shows. -/
structure Summary where
  errors : Nat
  warnings : Nat
deriving DecidableEq, Repr

namespace Summary

/-- The summary of the diagnostics shown. -/
def ofDiagnostics (ds : List Diagnostic) : Summary :=
  ⟨countLevel .error ds, countLevel .warning ds⟩

/-- A number of things. -/
def plural (count : Nat) (word : String) : String :=
  s!"{count} {word}" ++ if count = 1 then "" else "s"

/-- The summary in words. -/
def message (checker : Checker) (s : Summary) : String :=
  "[" ++ checker.name ++ "] Found " ++ plural s.errors "error" ++ " and " ++
    plural s.warnings "warning"

/-- What the color of a summary says. -/
inductive Color
  | red
  | yellow
  | green
deriving DecidableEq, Repr

/-- Red with errors, yellow with warnings only, green with neither. -/
def color (s : Summary) : Color :=
  if 0 < s.errors then .red else if 0 < s.warnings then .yellow else .green

/-- The style of a color. -/
def Color.style : Color → Ansi.Style
  | .red => [31]
  | .yellow => [33]
  | .green => [32]

/-- The summary's line in a terminal. -/
def line (checker : Checker) (s : Summary) (colored : Bool) : String :=
  .ofList (Ansi.paintIf colored s.color.style (s.message checker).toList)

end Summary

namespace Diagnostic

/-- The style of a level's label: bold black on a bright background. -/
def labelStyle : Severity → Ansi.Style
  | .error => [1, 101, 30]
  | .warning => [1, 103, 30]
  | .suggestion => [1, 104, 30]
  | .message => [1, 106, 30]

/-- The style of the label in front of a file. -/
def fileStyle : Ansi.Style := [1, 106, 30]

/-- The style of line and column numbers. -/
def numberStyle : Ansi.Style := [33]

/-- A number of a position behind its colon. -/
def positionText (color : Bool) (n : Nat) : List Char :=
  ':' :: Ansi.paintIf color numberStyle (Nat.toDigits 10 n)

/-- The first line of a block: level, checker and message. -/
def headText (color : Bool) (d : Diagnostic) : List Char :=
  let severity := d.severity.getD .error
  let label := " " ++ severity.label ++ "(" ++ d.checker.name ++ ") "
  Ansi.paintIf color (labelStyle severity) label.toList ++ ' ' :: d.message.toList

/-- The line that tells where the diagnostic is. -/
def fileText (color : Bool) (file : String) (location : Option Location) : List Char :=
  let position (l : Location) := positionText color l.startLine ++ positionText color l.startColumn
  Ansi.paintIf color fileStyle " FILE ".toList ++ ' ' :: file.toList ++
    location.elim [] position ++ ['\n']

/-- The parts of a block that the diagnostic has. -/
def blockParts (color : Bool) (d : Diagnostic) : List (List Char) :=
  let frame := if color then d.styledFrame else d.plainFrame
  [d.headText color] ++
    d.file.toList.map (fileText color · d.location) ++
    frame.toList.map (·.toList ++ ['\n']) ++
    (if d.conclusion.isEmpty then [] else [d.conclusion.toList])

/-- The diagnostic as a block of text for a terminal. -/
def block (color : Bool) (d : Diagnostic) : String :=
  .ofList (['\n'].intercalate (d.blockParts color))

end Diagnostic

/-- What a report has shown. -/
structure Report where
  /-- The entries for the terminal, in their order; one may have several lines. -/
  lines : List String
  payload : Option Payload
  summary : Summary
deriving DecidableEq, Repr

/-- How one checker reports. -/
structure Reporter where
  checker : Checker
  /-- The levels shown, all of them if there is no list. -/
  levels : Option (List Severity) := none
  terminal : Bool := true
  overlay : Bool := true
  color : Bool := true
deriving DecidableEq, Repr

namespace Reporter

/-- Reports what a store holds. -/
def report (r : Reporter) (s : Store) : Report :=
  let shown := filterLevels r.levels s.flatten
  let summary := Summary.ofDiagnostics shown
  { lines :=
      if r.terminal then shown.map (·.block r.color) ++ [summary.line r.checker r.color] else []
    payload := if r.overlay then some (.ofDiagnostics r.checker shown) else none
    summary }

end Reporter

end Sidecheck
