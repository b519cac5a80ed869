import Sidecheck.Wrap
/-!
# Positions in a source file

Tools count lines and columns from one, `Location`; an index into a text counts from zero,
`LineColumn`. A tool that reports no end leaves it at zero.
-/

namespace Sidecheck

/-- A line and a column, both counted from zero. -/
structure LineColumn where
  line : Nat
  column : Nat
deriving DecidableEq, Repr

/-- A range of a source file, counted from one. An end of zero is unknown. -/
structure Location where
  startLine : Nat
  startColumn : Nat
  endLine : Nat
  endColumn : Nat
deriving DecidableEq, Repr

namespace Location

/-- The range between two positions that are counted from zero. -/
def ofZeroBased (first last : LineColumn) : Location :=
  ⟨wrap32 (first.line + 1), wrap32 (first.column + 1), wrap32 (last.line + 1),
    wrap32 (last.column + 1)⟩

/-- The last line of the range; the first one when the end is unknown. -/
def lastLine (l : Location) : Nat := max l.endLine l.startLine

/-- The range reaches over a line end. -/
def isMultiline (l : Location) : Bool := l.startLine < l.lastLine

/-- Nothing is cut off a position whose numbers can be counted from one. -/
theorem ofZeroBased_of_lt {first last : LineColumn} (hline : first.line + 1 < limit32)
    (hcolumn : first.column + 1 < limit32) (hline' : last.line + 1 < limit32)
    (hcolumn' : last.column + 1 < limit32) :
    ofZeroBased first last =
      ⟨first.line + 1, first.column + 1, last.line + 1, last.column + 1⟩ := by
  rw [ofZeroBased, wrap32_of_lt hline, wrap32_of_lt hcolumn, wrap32_of_lt hline',
    wrap32_of_lt hcolumn']

end Location

end Sidecheck
