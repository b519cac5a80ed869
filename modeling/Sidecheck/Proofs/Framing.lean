import Sidecheck.Frame
import Sidecheck.Proofs.Heading
import Sidecheck.Proofs.Positions
/-!
# What stands in a frame

A frame has the lines from `firstShown` to `lastShown`, each under its own number: `rows_eq`. Each
row is one line of what is written (`splitOn_write`), and the carets can be read there behind the
gutter (`caretColumn_carets`, `caretCount_carets`).

All of it holds whatever the numbers are. That a number is not cut off to its lowest 32 bits is a
condition on the text, `Text.Fits32`.
-/

namespace Sidecheck

/-- Each offset of the text can be counted from one, and each of its lines has a number that is also
one with the lines shown below it. -/
structure Text.Fits32 (cs : List Char) : Prop where
  size : byteLength cs + 1 < limit32
  lines : (sourceLines cs).length + Frame.linesBelow < limit32

namespace Frame

variable {lines : List (List Char)} {l : Location}

/-! ## The lines that are shown -/

theorem lastShown_le (l : Location) (total : Nat) : lastShown l total ≤ total :=
  (Nat.min_le_right _ _).trans (wrap32_le total)

/-- The last line shown is three below the location if the text has it, unless the number of one of
the two is too large. -/
theorem lastShown_of_lt {total : Nat} (hlast : lastCovered l + linesBelow < limit32)
    (htotal : total < limit32) : lastShown l total = min (lastCovered l + linesBelow) total := by
  rw [lastShown, wrap32_of_lt hlast, wrap32_of_lt htotal]

/-- The rows of the line of a number. -/
def rowsAt (lines : List (List Char)) (l : Location) (number : Nat) : List Row :=
  rowsOfLine l number (lines.getD (number - 1) [])

theorem shownLines_eq (lines : List (List Char)) (l : Location) :
    shownLines lines l =
      (List.range' (firstShown l) (lastShown l lines.length + 1 - firstShown l)).map
        fun number => (number, lines.getD (number - 1) []) := by
  have hfirst : 1 ≤ firstShown l := Nat.le_max_right _ _
  have hlast := lastShown_le l lines.length
  refine List.ext_getElem ?_ fun i hi _ => ?_
  · simp only [shownLines, List.length_zip, List.length_range', List.length_take, List.length_drop,
      List.length_map]
    omega
  · simp only [shownLines, List.length_zip, List.length_range', List.length_take,
      List.length_drop] at hi
    have hnumber : firstShown l - 1 + i = firstShown l + i - 1 := by omega
    have hline : firstShown l + i - 1 < lines.length := by omega
    simp [shownLines, hnumber, hline]

theorem rows_eq (lines : List (List Char)) (l : Location) :
    rows lines l =
      (List.range' (firstShown l) (lastShown l lines.length + 1 - firstShown l)).flatMap
        (rowsAt lines l) := by
  rw [rows, shownLines_eq, List.flatMap_map]
  rfl

/-- The rows above and below those of a line that is shown. -/
theorem rows_eq_append {number : Nat} (hfirst : firstShown l ≤ number)
    (hlast : number ≤ lastShown l lines.length) :
    rows lines l =
      (List.range' (firstShown l) (number - firstShown l)).flatMap (rowsAt lines l) ++
        (rowsAt lines l number ++
          (List.range' (number + 1) (lastShown l lines.length - number)).flatMap
            (rowsAt lines l)) := by
  have hcount : lastShown l lines.length + 1 - firstShown l =
      number - firstShown l + (lastShown l lines.length - number + 1) := by omega
  have hnumber : firstShown l + 1 * (number - firstShown l) = number := by omega
  rw [rows_eq, hcount, ← List.range'_append, hnumber, List.flatMap_append, List.range'_succ,
    List.flatMap_cons]

/-- A line that is not covered has one row. -/
theorem length_rowsAt {number : Nat} (h : ¬ (firstCovered l ≤ number ∧ number ≤ lastCovered l)) :
    (rowsAt lines l number).length = 1 := by
  rw [rowsAt, rowsOfLine, if_neg h]
  rfl

/-! ## Rows as lines -/

theorem not_mem_gutter {c : Char} (hblank : c ≠ ' ') (hbar : c ≠ '|') {label : List Char}
    (hlabel : c ∉ label) (width : Nat) : c ∉ gutter width label := by
  simp [gutter, hblank, hbar, hlabel]

theorem not_mem_digits {c : Char} (h : c.isDigit = false) (n : Nat) : c ∉ digits n :=
  Listing.not_mem_toDigits h

theorem not_mem_indentBelow {c : Char} (htab : c ≠ '\t') (hblank : c ≠ ' ') (line : List Char)
    (column : Nat) : c ∉ indentBelow line column := by
  intro h
  obtain ⟨b, _, hb⟩ := List.mem_map.1 h
  split at hb
  · exact htab hb.symm
  · exact hblank hb.symm

/-- What a row takes from the source: the line, or the blanks below it. -/
def Row.taken : Row → List Char
  | .source _ _ line => line
  | .carets indent _ => indent

theorem not_mem_taken {c : Char} (htab : c ≠ '\t') (hblank : c ≠ ' ')
    (h : ∀ line ∈ lines, c ∉ line) {row : Row} (hrow : row ∈ rows lines l) : c ∉ row.taken := by
  rw [rows_eq] at hrow
  obtain ⟨number, -, hrow⟩ := List.mem_flatMap.1 hrow
  have hline : c ∉ lines.getD (number - 1) [] := by
    rw [List.getD_eq_getElem?_getD]
    cases hget : lines[number - 1]? with
    | none => exact List.not_mem_nil
    | some line => exact h line (List.mem_of_getElem? hget)
  rw [rowsAt, rowsOfLine] at hrow
  split at hrow
  · simp only [List.mem_cons, List.not_mem_nil, or_false] at hrow
    rcases hrow with rfl | rfl
    · exact hline
    · exact not_mem_indentBelow htab hblank _ _
  · obtain rfl := List.mem_singleton.1 hrow
    exact hline

theorem newline_not_mem_paintIf {style : Ansi.Style} {cs : List Char}
    (hstyle : '\n' ∉ style.write) (h : '\n' ∉ cs) (color : Bool) :
    '\n' ∉ Ansi.paintIf color style cs := by
  cases color with
  | false => exact h
  | true => simp [Ansi.paintIf, Ansi.paint, Ansi.escape, hstyle, h]

theorem Row.newline_not_mem_write (color : Bool) (width : Nat) {row : Row} (h : '\n' ∉ row.taken) :
    '\n' ∉ row.write color width := by
  have hgutter {label : List Char} (hlabel : '\n' ∉ label) :
      '\n' ∉ Ansi.paintIf color gutterStyle (gutter width label) :=
    newline_not_mem_paintIf (by decide) (not_mem_gutter (by decide) (by decide) hlabel width) color
  cases row with
  | source number flagged line =>
    have hline : '\n' ∉ line := h
    have hnumber := hgutter (not_mem_digits (by decide) number)
    have hmark : '\n' ∉ Ansi.paintIf color markStyle ['>'] :=
      newline_not_mem_paintIf (by decide) (by decide) color
    cases flagged <;> cases line <;> simp_all [Row.write]
  | carets indent count =>
    have hindent : '\n' ∉ indent := h
    have hcarets : '\n' ∉ Ansi.paintIf color markStyle (List.replicate count '^') :=
      newline_not_mem_paintIf (by decide) (by simp) color
    simp [Row.write, hgutter List.not_mem_nil, hindent, hcarets]

/-- Every row is a line of the frame's text. -/
theorem splitOn_write {color : Bool} (h : ∀ line ∈ lines, '\n' ∉ line) (hrows : rows lines l ≠ []) :
    (write color lines l).splitOn '\n' =
      (rows lines l).map (Row.write color (digits (lastShown l lines.length)).length) := by
  refine List.splitOn_intercalate '\n' ?_ (by simpa using hrows)
  rintro _ hline
  obtain ⟨row, hrow, rfl⟩ := List.mem_map.1 hline
  exact Row.newline_not_mem_write _ _ (not_mem_taken (by decide) (by decide) h hrow)

/-- A text that is not empty has a frame for every location that begins in it. -/
theorem render?_of_le {text : String} (htext : text ≠ "")
    (hfirst : firstCovered l ≤ (Text.sourceLines text.toList).length) :
    render? text l = some ⟨.ofList (write true (Text.sourceLines text.toList) l),
      .ofList (write false (Text.sourceLines text.toList) l)⟩ := by
  have hshown : ¬ ((text.isEmpty || decide ((Text.sourceLines text.toList).length <
      firstCovered l)) = true) := by
    simpa [String.isEmpty_iff, htext] using hfirst
  rw [render?, if_neg hshown]

theorem plain_render? {text : String} (htext : text ≠ "")
    (hfirst : firstCovered l ≤ (Text.sourceLines text.toList).length) :
    (render? text l).map (·.plain) =
      some (.ofList (write false (Text.sourceLines text.toList) l)) := by
  rw [render?_of_le htext hfirst, Option.map_some]

/-! ## Reading a row -/

/-- What a row holds behind its gutter and the blank after it. -/
def behindGutter (row : List Char) : List Char := (row.dropWhile (· ≠ '|')).drop 2

/-- How many characters stand before the first caret of a row, behind the gutter. -/
def caretColumn (row : List Char) : Nat := ((behindGutter row).takeWhile (· ≠ '^')).length

/-- How many carets a row has. -/
def caretCount (row : List Char) : Nat := (behindGutter row).count '^'

/-- The gutter ends at the first bar. -/
theorem behindGutter_append (flag label : List Char) (hflag : '|' ∉ flag) (hlabel : '|' ∉ label)
    (width : Nat) (body : List Char) :
    behindGutter (flag ++ (gutter width label ++ body)) = body.drop 1 := by
  -- No bar stands before the gutter's own.
  have hbefore :
      ∀ c ∈ flag ++ (' ' :: (List.replicate (width - label.length) ' ' ++ label ++ [' '])),
        decide (c ≠ '|') = true := by
    intro c hc
    rw [decide_eq_true_eq]
    rintro rfl
    simp [hflag, hlabel] at hc
  have hsplit : flag ++ (gutter width label ++ body) =
      flag ++ (' ' :: (List.replicate (width - label.length) ' ' ++ label ++ [' '])) ++
        '|' :: body := by
    simp [gutter]
  rw [behindGutter, hsplit, List.dropWhile_append_of_pos hbefore,
    List.dropWhile_cons_of_neg (by simp)]
  rfl

theorem behindGutter_carets (width count : Nat) (indent : List Char) :
    behindGutter (Row.write false width (.carets indent count)) =
      indent ++ List.replicate count '^' := by
  have hread := behindGutter_append [' ', ' ', ' '] [] (by decide) (by decide) width
    (' ' :: indent ++ List.replicate count '^')
  have hwrite : Row.write false width (.carets indent count) =
      [' ', ' ', ' '] ++ (gutter width [] ++ (' ' :: indent ++ List.replicate count '^')) := by
    simp [Row.write, Ansi.paintIf]
  rw [hwrite, hread]
  rfl

theorem caretColumn_carets {indent : List Char} (h : '^' ∉ indent) (width count : Nat) :
    caretColumn (Row.write false width (.carets indent count)) = indent.length := by
  have hindent : ∀ c ∈ indent, decide (c ≠ '^') = true := fun c hc =>
    decide_eq_true fun hcaret => h (hcaret ▸ hc)
  rw [caretColumn, behindGutter_carets, List.takeWhile_append_of_pos hindent]
  cases count <;> simp [List.replicate_succ]

theorem caretCount_carets {indent : List Char} (h : '^' ∉ indent) (width count : Nat) :
    caretCount (Row.write false width (.carets indent count)) = count := by
  rw [caretCount, behindGutter_carets, List.count_append, List.count_eq_zero.2 h, Nat.zero_add,
    List.count_replicate_self]

end Frame

end Sidecheck
