import Sidecheck.Location
import Sidecheck.Text.Utf8
/-!
# Offsets and lines

An index of a text knows the offset, in bytes, at which each line begins. It turns an offset
into a line and a column, and back.
-/

namespace Sidecheck

/-- Where the lines of a text begin, and how many bytes the text has. -/
structure LineIndex where
  starts : List Nat
  size : Nat
deriving DecidableEq, Repr

namespace LineIndex

/-- The offsets just behind the line feeds of a text that itself begins at `offset`. -/
def startsAfter : (offset : Nat) → List Char → List Nat
  | _, [] => []
  | offset, c :: rest =>
    let next := offset + c.utf8Size
    if c = '\n' then next :: startsAfter next rest else startsAfter next rest

/-- The index of a text. The lines are in ascending order if the text has less than `limit32`
bytes; behind that, offsets begin at zero again. -/
def ofText (cs : List Char) : LineIndex :=
  ⟨0 :: (startsAfter 0 cs).map wrap32, wrap32 (Text.byteLength cs)⟩

/-- The number of lines. -/
def lineCount (ix : LineIndex) : Nat := ix.starts.length

/-- The line and column of an offset, none behind the end of the text. The line is looked for among
lines in ascending order. -/
def position? (ix : LineIndex) (offset : Nat) : Option LineColumn :=
  if ix.size < offset then none
  else
    let upTo := ix.starts.takeWhile (· ≤ offset)
    some ⟨wrap32 (upTo.length - 1), offset - upTo.getLastD 0⟩

/-- The offset of a line and column, none behind the last line. A column past the end of the
text gives the end of the text. -/
def offset? (ix : LineIndex) (p : LineColumn) : Option Nat :=
  ix.starts[p.line]?.map fun start => min (wrap32 (start + p.column)) ix.size

/-- The range of `length` bytes from `start`, cut off at the end of the text. -/
def location? (ix : LineIndex) (start length : Nat) : Option Location := do
  let first ← ix.position? start
  let last ← ix.position? (min (start + length) ix.size)
  return .ofZeroBased first last

theorem position?_eq_none_iff {ix : LineIndex} {offset : Nat} :
    ix.position? offset = none ↔ ix.size < offset := by
  simp [position?]

theorem offset?_eq_none_iff {ix : LineIndex} {p : LineColumn} :
    ix.offset? p = none ↔ ix.lineCount ≤ p.line := by
  simp [offset?, lineCount]

end LineIndex

end Sidecheck
