import Mathlib.Data.List.Forall2
import Sidecheck.Proofs.Framing
/-!
# How a frame is laid out

What a reader sees in a frame, said without the way it is written. Every line that is shown has a
row with its number on the right of a gutter (`IsSourceRow`), and a line that the location covers
has a second row with carets (`IsMarkerRow`): `ShowsLine`. The carets of a line begin below
`markedColumn` and reach up to `markedEnd`. The lines are those from two above the location to three
below it, so far as the text has them, and there are no other rows: `render?_shows`. It is about
frames whose last lines have numbers of 32 bits, `Frame.Fits`.
-/

namespace Sidecheck.Frame

variable {lines : List (List Char)} {l : Location} {width number : Nat} {line : List Char}

/-! ## What a row shows -/

/-- The row has a line of the source behind its flag and its number. The number is on the right of
`width` characters. A line without characters has no blank in front of it. -/
def IsSourceRow (width number : Nat) (flag : Char) (line row : List Char) : Prop :=
  ∃ blanks, blanks + (digits number).length = width ∧
    row = [' ', ' ', flag, ' '] ++ List.replicate blanks ' ' ++ digits number ++ [' ', '|'] ++
      if line = [] then [] else ' ' :: line

/-- The row has `count` carets below a column of a line, or behind the line if the column is. There
are tabs below the tabs of the line and else blanks. -/
def IsMarkerRow (width : Nat) (above : List Char) (column count : Nat) (row : List Char) : Prop :=
  ∃ indent, row = [' ', ' ', ' ', ' '] ++ List.replicate width ' ' ++ [' ', '|', ' '] ++ indent ++
      List.replicate count '^' ∧
    indent.length = min (column - 1) above.length ∧
    ∀ i < indent.length, indent[i]? = some (if above[i]? = some '\t' then '\t' else ' ')

/-- The last line of a location, which is never above the first. -/
def lastMarked (l : Location) : Nat := max l.endLine (firstCovered l)

/-- The first column of a location in one of its lines. -/
def markedColumn (l : Location) (number : Nat) : Nat :=
  if number = firstCovered l then max l.startColumn 1 else 1

/-- The column behind a location in one of its lines. The end of the location is behind it if
all of it is in one line, and belongs to it otherwise. -/
def markedEnd (l : Location) (number length : Nat) : Nat :=
  if number < lastMarked l then length + 1
  else if firstCovered l = lastMarked l then l.endColumn
  else l.endColumn + 1

/-- No number of the location's frame is too large: that of the last line that may be shown, the
number of lines, and, for a location in more than one line, the column behind a line. -/
structure Fits (lines : List (List Char)) (l : Location) : Prop where
  below : lastMarked l + linesBelow < limit32
  total : lines.length < limit32
  columns : firstCovered l < lastMarked l → ∀ line ∈ lines, line.length + 1 < limit32

/-- The rows show the line of a number, with carets below it if the location covers it. -/
inductive ShowsLine (lines : List (List Char)) (l : Location) (width number : Nat) :
    List (List Char) → Prop
  | plain {line row : List Char} :
      lines[number - 1]? = some line → ¬ (firstCovered l ≤ number ∧ number ≤ lastMarked l) →
      IsSourceRow width number ' ' line row → ShowsLine lines l width number [row]
  | marked {line row marker : List Char} :
      lines[number - 1]? = some line → firstCovered l ≤ number → number ≤ lastMarked l →
      IsSourceRow width number '>' line row →
      IsMarkerRow width line (markedColumn l number)
        (max (markedEnd l number line.length - markedColumn l number) 1) marker →
      ShowsLine lines l width number [row, marker]

/-! ## Rows as they are written -/

theorem lastCovered_eq (l : Location) : lastCovered l = lastMarked l := by
  simp only [lastCovered, Location.lastLine, lastMarked, firstCovered]
  omega

theorem length_digits_mono {m n : Nat} (h : m ≤ n) : (digits m).length ≤ (digits n).length := by
  have hpos : 0 < (digits n).length := Nat.length_toDigits_pos
  have hn : n < 10 ^ (digits n).length :=
    (Nat.length_toDigits_le_iff (by decide) hpos).1 (Nat.le_refl _)
  exact (Nat.length_toDigits_le_iff (by decide) hpos).2 (by omega)

theorem isSourceRow_write (h : (digits number).length ≤ width) (flagged : Bool)
    (line : List Char) :
    IsSourceRow width number (if flagged then '>' else ' ') line
      (Row.write false width (.source number flagged line)) := by
  refine ⟨width - (digits number).length, by omega, ?_⟩
  cases flagged <;> cases line <;> simp [Row.write, Ansi.paintIf, gutter]

theorem isMarkerRow_write (width : Nat) (line : List Char) (column count : Nat) :
    IsMarkerRow width line column count
      (Row.write false width (.carets (indentBelow line column) count)) := by
  refine ⟨indentBelow line column, by simp [Row.write, Ansi.paintIf, gutter], ?_, ?_⟩
  · simp [indentBelow]
  · intro i hi
    simp only [indentBelow, List.length_map, List.length_take] at hi
    have hline : i < line.length := by omega
    have hcolumn : i < column - 1 := by omega
    simp [indentBelow, hcolumn, hline]

/-- The carets of a covered line reach from the first column of the location in it to the last. -/
theorem caretSpan_eq {length : Nat} (hfirst : firstCovered l ≤ number)
    (hlast : number ≤ lastMarked l)
    (hlength : firstCovered l < lastMarked l → length + 1 < limit32) :
    caretSpan l number length =
      (markedColumn l number, markedEnd l number length - markedColumn l number) := by
  simp only [caretSpan, lastCovered_eq, markedColumn, markedEnd]
  by_cases hone : firstCovered l = lastMarked l
  · have hnumber : number = firstCovered l := by omega
    have hend : ¬ number < lastMarked l := by omega
    rw [if_pos hone, if_pos hone, if_pos hnumber, if_neg hend]
  · have hlimit := hlength (by omega)
    rw [if_neg hone, if_neg hone, wrap32_of_lt hlimit, wrap32_of_lt (Nat.lt_of_succ_lt hlimit)]
    by_cases hnumber : number = firstCovered l
    · have hbefore : number < lastMarked l := by omega
      rw [if_pos hnumber, if_pos hnumber, if_pos hbefore]
    · rw [if_neg hnumber, if_neg hnumber]
      by_cases hend : number = lastMarked l
      · rw [if_pos hend, if_neg (by omega), Nat.add_sub_cancel]
      · rw [if_neg hend, if_pos (by omega), Nat.add_sub_cancel]

/-- The rows of a line show it. -/
theorem showsLine_rowsAt (hfits : Fits lines l) (hline : lines[number - 1]? = some line)
    (hwidth : (digits number).length ≤ width) :
    ShowsLine lines l width number ((rowsAt lines l number).map (Row.write false width)) := by
  rw [rowsAt, List.getD_eq_getElem?_getD, hline, Option.getD_some, rowsOfLine, lastCovered_eq]
  split
  · rename_i hcovered
    have hmem : line ∈ lines := List.mem_of_getElem? hline
    rw [caretSpan_eq hcovered.1 hcovered.2 fun hmore => hfits.columns hmore line hmem]
    exact .marked hline hcovered.1 hcovered.2 (isSourceRow_write hwidth true line)
      (isMarkerRow_write ..)
  · rename_i hcovered
    exact .plain hline hcovered (isSourceRow_write hwidth false line)

/-- The first line that a location covers is shown. -/
theorem rows_ne_nil (hlast : lastMarked l + linesBelow < limit32) (htotal : lines.length < limit32)
    (h : firstCovered l ≤ lines.length) : rows lines l ≠ [] := by
  rw [← lastCovered_eq] at hlast
  have hfirst : firstShown l ≤ firstCovered l := by
    have hcovered : 1 ≤ firstCovered l := Nat.le_max_right _ _
    simp only [firstShown]
    omega
  have hlast : firstCovered l ≤ lastShown l lines.length := by
    rw [lastShown_of_lt hlast htotal, lastCovered_eq, lastMarked]
    omega
  have hrow : rowsAt lines l (firstCovered l) ≠ [] := by
    rw [rowsAt, rowsOfLine]
    split <;> exact List.cons_ne_nil _ _
  rw [rows_eq_append hfirst hlast]
  simp [hrow]

/-! ## Main theorem -/

/-- A text has a frame for a location that begins in it. If no number is too large, its rows are
those of the lines around the location in their order, with all numbers on the right of one
gutter. -/
theorem render?_shows (text : String) (l : Location) :
    let lines := Text.sourceLines text.toList
    let start := max l.startLine 1
    let first := max (start - 2) 1
    let last := min (max l.endLine start + 3) lines.length
    (render? text l = none ↔ text = "" ∨ lines.length < start) ∧
    (Fits lines l → ∀ frame ∈ render? text l, ∃ width blocks,
      frame.plain.toList.splitOn '\n' = blocks.flatten ∧
      List.Forall₂ (ShowsLine lines l width) (List.range' first (last + 1 - first)) blocks) := by
  intro lines start first last
  refine ⟨render?_eq_none_iff, fun hfits frame hframe => ?_⟩
  have hsome : render? text l ≠ none := by rw [hframe]; exact Option.some_ne_none frame
  rw [ne_eq, render?_eq_none_iff, not_or, Nat.not_lt] at hsome
  obtain ⟨htext, hstart⟩ := hsome
  have hlast : lastShown l lines.length = last := by
    rw [lastShown_of_lt (lastCovered_eq l ▸ hfits.below) hfits.total, lastCovered_eq]
    rfl
  have hplain : frame.plain = .ofList (write false lines l) := by
    have hrender := plain_render? htext hstart
    rwa [hframe, Option.map_some, Option.some.injEq] at hrender
  have hlines : ∀ line ∈ lines, '\n' ∉ line := by
    intro line hline
    obtain ⟨raw, hraw, rfl⟩ := List.mem_map.1 hline
    exact Text.not_mem_dropReturn (Text.not_mem_of_mem_splitOn hraw)
  have hrows := rows_ne_nil hfits.below hfits.total hstart
  refine ⟨(digits last).length, (List.range' first (last + 1 - first)).map fun number =>
    (rowsAt lines l number).map (Row.write false (digits last).length), ?_, ?_⟩
  · rw [hplain, String.toList_ofList, splitOn_write hlines hrows, rows_eq, hlast, List.map_flatMap,
      List.flatMap_def]
    rfl
  · rw [List.forall₂_map_right_iff, List.forall₂_same]
    intro number hnumber
    rw [List.mem_range'_1] at hnumber
    have hlength : number - 1 < lines.length := by omega
    exact showsLine_rowsAt hfits (List.getElem?_eq_getElem hlength) (length_digits_mono (by omega))

/-- A location from the middle of one line to the middle of the next has two rows for each. -/
theorem render?_shows_two_lines :
    let lines := Text.sourceLines "ab\ncd\n".toList
    let l : Location := ⟨1, 2, 2, 1⟩
    Fits lines l ∧ ∃ frame width blocks, render? "ab\ncd\n" l = some frame ∧
      frame.plain.toList.splitOn '\n' = blocks.flatten ∧
      List.Forall₂ (ShowsLine lines l width) [1, 2, 3] blocks := by
  intro lines l
  have hfits : Fits lines l := ⟨by decide, by decide, by decide⟩
  obtain ⟨hnone, hshows⟩ := render?_shows "ab\ncd\n" l
  have hsome : render? "ab\ncd\n" l ≠ none := fun h => absurd (hnone.1 h) (by decide)
  obtain ⟨frame, hframe⟩ := Option.ne_none_iff_exists'.1 hsome
  obtain ⟨width, blocks, hrows, hlines⟩ := hshows hfits frame hframe
  exact ⟨hfits, frame, width, blocks, hframe, hrows, hlines⟩

/-- Tabs stand below tabs. -/
example : (render? "a\n\tbc\nd" ⟨2, 2, 2, 4⟩).map (·.plain) =
    some "    1 | a\n  > 2 | \tbc\n      | \t^^\n    3 | d" := by decide +kernel

end Sidecheck.Frame
