/-!
# Lines

Two ways to cut a text into lines. A source text has a line on either side of every line feed,
so the text `"a\n"` has two. A program's output has a line for every line feed, so the same
text has one, and what follows the last line feed counts only if something does.
-/

namespace Sidecheck.Text

/-- A line without one carriage return at its end. -/
def dropReturn (line : List Char) : List Char :=
  if line.getLast? = some '\r' then line.dropLast else line

/-- The lines of a source text, without line ends; an empty text has one empty line. -/
def sourceLines (cs : List Char) : List (List Char) :=
  (cs.splitOn '\n').map dropReturn

/-- The lines of a program's output. A return is part of the line end only before a line feed. -/
def outputLines (cs : List Char) : List (List Char) :=
  let parts := cs.splitOn '\n'
  parts.dropLast.map dropReturn ++ parts.getLast?.toList.filter (!·.isEmpty)

theorem sourceLines_ne_nil (cs : List Char) : sourceLines cs ≠ [] := by
  simp [sourceLines]

/-- The first line of an output is what stands before its first line feed. -/
theorem outputLines_append_cons {xs ys : List Char} (h : '\n' ∉ xs) :
    outputLines (xs ++ '\n' :: ys) = dropReturn xs :: outputLines ys := by
  have hne := List.splitOn_ne_nil '\n' ys
  simp [outputLines, List.splitOn_append_cons_self_of_not_mem h, List.dropLast_cons_of_ne_nil hne,
    List.getLast?_cons, List.getLast?_eq_some_getLast hne]

end Sidecheck.Text
