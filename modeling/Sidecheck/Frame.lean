import Sidecheck.Ansi
import Sidecheck.Location
import Sidecheck.Text.Lines
/-!
# Code frames

A frame shows the lines a location covers, with two lines above and three below, numbered in a
gutter. A covered line is flagged `>` and followed by a row of carets below the covered part.
The frame is laid out once, as `Row`s, and written twice: with styles and without.
-/

namespace Sidecheck

/-- A frame in its two written forms. -/
structure Frame where
  /-- With terminal styles. -/
  styled : String
  /-- Without any style. -/
  plain : String
deriving DecidableEq, Repr

namespace Frame

/-- How many lines are shown above the first covered line. -/
def linesAbove : Nat := 2

/-- How many lines are shown below the last covered line. -/
def linesBelow : Nat := 3

/-- One row of a frame. -/
inductive Row
  /-- A line of the source under its number; `flagged` if the location covers it. -/
  | source (number : Nat) (flagged : Bool) (line : List Char)
  /-- Carets below a covered line, after its indentation. -/
  | carets (indent : List Char) (count : Nat)
deriving DecidableEq, Repr

/-- The first line a location covers; lines are counted from one. -/
def firstCovered (l : Location) : Nat := max l.startLine 1

/-- The last line a location covers. -/
def lastCovered (l : Location) : Nat := max l.lastLine (firstCovered l)

/-- Where the carets of a covered line begin, counted from one, and how many there are. -/
def caretSpan (l : Location) (number length : Nat) : Nat × Nat :=
  let column := max l.startColumn 1
  if firstCovered l = lastCovered l then (column, l.endColumn - column)
  else if number = firstCovered l then (column, wrap32 (length + 1) - column)
  else if number = lastCovered l then (1, l.endColumn)
  else (1, wrap32 length)

/-- The blank text below the characters before a column. Tabs stay tabs, so that the carets
line up however wide a tab is shown. -/
def indentBelow (line : List Char) (column : Nat) : List Char :=
  (line.take (column - 1)).map fun c => if c = '\t' then '\t' else ' '

/-- The rows of one line: the line itself and, if it is covered, its carets. -/
def rowsOfLine (l : Location) (number : Nat) (line : List Char) : List Row :=
  if firstCovered l ≤ number ∧ number ≤ lastCovered l then
    let (column, count) := caretSpan l number line.length
    [.source number true line, .carets (indentBelow line column) (max count 1)]
  else [.source number false line]

/-- The number of the first line shown. -/
def firstShown (l : Location) : Nat := max (firstCovered l - linesAbove) 1

/-- The number of the last line shown of a text with `total` lines. It may be above the first one
if it does not fit, and then no line is shown. -/
def lastShown (l : Location) (total : Nat) : Nat :=
  min (wrap32 (lastCovered l + linesBelow)) (wrap32 total)

/-- The lines shown, each with its number. -/
def shownLines (lines : List (List Char)) (l : Location) : List (Nat × List Char) :=
  let first := firstShown l
  let count := lastShown l lines.length + 1 - first
  (List.range' first count).zip ((lines.drop (first - 1)).take count)

/-- The rows of a frame, from top to bottom. -/
def rows (lines : List (List Char)) (l : Location) : List Row :=
  (shownLines lines l).flatMap fun (number, line) => rowsOfLine l number line

/-- A number's decimal digits. -/
def digits (n : Nat) : List Char := Nat.toDigits 10 n

/-- The gutter's text around a number or a blank, which is moved to the right. -/
def gutter (width : Nat) (label : List Char) : List Char :=
  ' ' :: List.replicate (width - label.length) ' ' ++ label ++ [' ', '|']

/-- The style of the gutter: dark gray. -/
def gutterStyle : Ansi.Style := [90]

/-- The style of flags and carets: bold red. -/
def markStyle : Ansi.Style := [1, 31]

/-- A row as it is written, in a gutter for numbers of `width` digits. -/
def Row.write (color : Bool) (width : Nat) : Row → List Char
  | .source number flagged line =>
    let mark := if flagged then Ansi.paintIf color markStyle ['>'] else [' ']
    let flag := ' ' :: ' ' :: mark
    let body := if line.isEmpty then [] else ' ' :: line
    flag ++ Ansi.paintIf color gutterStyle (gutter width (digits number)) ++ body
  | .carets indent count =>
    [' ', ' ', ' '] ++ Ansi.paintIf color gutterStyle (gutter width []) ++ ' ' :: indent ++
      Ansi.paintIf color markStyle (List.replicate count '^')

/-- A frame's text. -/
def write (color : Bool) (lines : List (List Char)) (l : Location) : List Char :=
  let width := (digits (lastShown l lines.length)).length
  ['\n'].intercalate ((rows lines l).map (Row.write color width))

/-- The frame of a location in a text; none for an empty text, and none for a location that
begins behind the last line. -/
def render? (text : String) (l : Location) : Option Frame :=
  let lines := Text.sourceLines text.toList
  if text.isEmpty || lines.length < firstCovered l then none
  else some ⟨.ofList (write true lines l), .ofList (write false lines l)⟩

theorem render?_eq_none_iff {text : String} {l : Location} :
    render? text l = none ↔
      text = "" ∨ (Text.sourceLines text.toList).length < max l.startLine 1 := by
  simp only [render?, firstCovered]
  grind [String.isEmpty_iff]

end Frame

end Sidecheck
