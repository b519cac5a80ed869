import Sidecheck.HostName.Mapping
import Sidecheck.HostName.Punycode
import Sidecheck.Text.Blank
import Sidecheck.Text.Composition
import Sidecheck.Text.Direction
import Sidecheck.Text.Joining
/-!
# Labels of host names

The parts of a host name between its dots. A label may be written in ASCII behind `xn--`. What
may stand in a label is told by its characters, by the joiners between them and, where a name
has letters from right to left, by the directions in which it is written.
-/

namespace Sidecheck.HostName

/-- What a label that is written in ASCII begins with. -/
def asciiMark : List Char := ['x', 'n', '-', '-']

/-- The greatest number of characters that are read behind `xn--`. -/
def longestWritten : Nat := 2000

/-- The greatest number of characters of a label that is not ASCII. -/
def longestLabel : Nat := 1000

/-- An ASCII character. -/
def isAscii (c : Char) : Bool := c.toNat < 0x80

/-- The label that a label written in ASCII means; another label means itself. What it means
must not be ASCII, and must be as mapping and composing leave it. -/
def readLabel? (label : List Char) : Option (List Char) :=
  match asciiMark.isPrefixOf? label with
  | none => some label
  | some written =>
    if written.getLast?.all (· = '-') ∨ longestWritten < written.length ∨ !written.all isAscii
      then none
    else do
      let meant ← Punycode.decode? written
      let mapped ← mapText? meant
      if Text.compose mapped = meant then some meant else none

/-- The joiner that keeps letters apart. -/
def nonJoiner : Char := '\u200C'

/-- The joiner that joins letters. -/
def joiner : Char := '\u200D'

/-- The combining class of the marks that take a letter's vowel away. -/
def vowelKiller : Nat := 9

/-- Every joiner has a place: behind a mark that takes a letter's vowel away, or, if it keeps
letters apart, between two that would join. `before` is what stands before, in reverse. -/
def joinersFit (before : List Char) : List Char → Bool
  | [] => true
  | c :: rest =>
    let isBetween :=
      (before.dropWhile Text.isTransparent).head?.any Text.joinsBehind &&
        (rest.dropWhile Text.isTransparent).head?.any Text.joinsBefore
    let fits := (c ≠ nonJoiner && c ≠ joiner) ||
      before.head?.any fun last =>
        Text.combiningClass last = vowelKiller || (c = nonJoiner && isBetween)
    fits && joinersFit (c :: before) rest

/-- The label neither begins with a mark nor is too long, and its joiners fit. -/
def isLabel (label : List Char) : Bool :=
  label.all isAscii ||
    (!label.head?.any Text.isMark && label.length ≤ longestLabel && joinersFit [] label)

/-- A character that makes a name one of which parts are read from right to left. -/
def isRightToLeft (c : Char) : Bool :=
  0x590 ≤ c.toNat && [Text.Direction.rightToLeft, .arabicLetter, .arabicNumber].contains
    (Text.direction c)

/-- The directions that may stand anywhere in a label. -/
def freeDirections : List Text.Direction :=
  [.europeanNumber, .separator, .terminator, .commonSeparator, .neutral, .boundary, .mark]

/-- In a name with parts from right to left each label goes one way: it begins with a letter,
holds no letter of the other way, and ends, marks aside, in a letter or a number. Numbers of
two kinds do not stand in one label from right to left. -/
def goesOneWay (label : List Char) : Bool :=
  match label.map Text.direction with
  | [] => true
  | first :: rest =>
    let rest := Text.dropWhileEnd (· = .mark) rest
    let keepsTo (inside atEnd : List Text.Direction) : Bool :=
      rest.all (fun d => inside.contains d || freeDirections.contains d) &&
        rest.getLast?.all atEnd.contains
    match first with
    | .leftToRight => keepsTo [.leftToRight] [.leftToRight, .europeanNumber]
    | .rightToLeft | .arabicLetter =>
      keepsTo [.rightToLeft, .arabicLetter, .arabicNumber]
          [.rightToLeft, .arabicLetter, .arabicNumber, .europeanNumber] &&
        !(rest.contains .arabicNumber && rest.contains .europeanNumber)
    | _ => false

end Sidecheck.HostName
