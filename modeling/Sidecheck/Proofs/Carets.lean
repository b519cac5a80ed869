import Sidecheck.Normalize
import Sidecheck.Proofs.Framing
/-!
# Carets below a compiler's diagnostic

A compiler's record tells a range in bytes. The index turns it into columns that count bytes, and
the frame draws carets below columns that count characters. So the carets begin as many characters
into the line as there are bytes before the range, and are as many as the range has bytes:
`carets_normalize`. They are where they should be exactly if each character up to the end of the
range takes one byte (`carets_right_iff`), and the first character that takes more moves them
(`carets_behind_range`). The text's offsets and lines have numbers of 32 bits there.
-/

namespace Sidecheck

/-- The record is about a part of a line: the part follows what is ahead of it in the line, which
is below other lines. The end of the line belongs to no part. -/
structure CompilerRecord.IsAbout (r : CompilerRecord) (text : String) (above : List (List Char))
    (ahead part behind : List Char) : Prop where
  category : (Severity.ofCategory? r.category).isSome = true
  fileText : r.fileText = some text
  line : ∃ line below, text.toList.splitOn '\n' = above ++ line :: below ∧
    Text.dropReturn line = ahead ++ part ++ behind
  nonempty : part ≠ []
  start : r.start = some (LineIndex.lineStart above + Text.byteLength ahead)
  length : r.length = some (Text.byteLength part)

/-- The frame shows a line under its number, below at most two others and with a flag, and the
marker line below it. -/
def Frame.HasMarker (frame : String) (number : Nat) (line marker : List Char) : Prop :=
  ∃ width before after,
    frame.toList.splitOn '\n' =
      before ++ Row.write false width (.source number true line) :: marker :: after ∧
    before.length = min linesAbove (number - 1)

namespace Frame

/-- The marker line of a location in one line. -/
theorem hasMarker_write {lines : List (List Char)} {l : Location} {number : Nat} {line : List Char}
    (htotal : lines.length + linesBelow < limit32) (hlines : ∀ line ∈ lines, '\n' ∉ line)
    (hline : lines[number]? = some line) (hfirst : firstCovered l = number + 1)
    (hlast : lastCovered l = number + 1) :
    ∃ width, HasMarker (.ofList (write false lines l)) (number + 1) line
      (Row.write false width (.carets (indentBelow line (max l.startColumn 1))
        (max (l.endColumn - max l.startColumn 1) 1))) := by
  have hnumber : number < lines.length := (List.getElem?_eq_some_iff.1 hline).1
  have hshown : firstShown l = number + 1 - min linesAbove number := by
    simp only [firstShown, hfirst, linesAbove]
    omega
  have hbelow : number + 1 ≤ lastShown l lines.length := by
    rw [lastShown_of_lt (by omega) (by omega), hlast]
    omega
  have habove : firstShown l ≤ number + 1 := by omega
  have hrows := rows_eq_append habove hbelow
  have hcovered : rowsAt lines l (number + 1) =
      [.source (number + 1) true line,
        .carets (indentBelow line (max l.startColumn 1))
          (max (l.endColumn - max l.startColumn 1) 1)] := by
    simp [rowsAt, rowsOfLine, caretSpan, hfirst, hlast, hline]
  rw [hcovered] at hrows
  -- The lines above are not covered, so each has one row.
  have hone : ∀ n ∈ List.range' (firstShown l) (number + 1 - firstShown l),
      (rowsAt lines l n).length = 1 := by
    intro n hn
    rw [List.mem_range'_1] at hn
    exact length_rowsAt (by omega)
  have hlength : ((List.range' (firstShown l) (number + 1 - firstShown l)).flatMap
      (rowsAt lines l)).length = min linesAbove number := by
    rw [List.length_flatMap, List.map_congr_left hone, List.map_const', List.sum_replicate_nat,
      List.length_range', hshown, linesAbove]
    omega
  have hsplit : (write false lines l).splitOn '\n' = _ := splitOn_write hlines (by simp [hrows])
  rw [hrows, List.map_append, List.map_append] at hsplit
  refine ⟨_, _, _, _, (congrArg (·.splitOn '\n') String.toList_ofList).trans hsplit, ?_⟩
  rw [List.length_map, hlength, Nat.add_sub_cancel]

end Frame

namespace CompilerRecord.IsAbout

variable {r : CompilerRecord} {text : String} {above : List (List Char)}
  {ahead part behind : List Char}

theorem location? (h : r.IsAbout text above ahead part behind)
    (hfits : Text.Fits32 text.toList) :
    r.location? = some (text, ⟨above.length + 1, Text.byteLength ahead + 1, above.length + 1,
      Text.byteLength ahead + Text.byteLength part + 1⟩) := by
  obtain ⟨line, below, hsplit, hreturn⟩ := h.line
  have hlength : Text.byteLength ahead + Text.byteLength part ≤ Text.byteLength line := by
    obtain ⟨rest, hrest⟩ := Text.dropReturn_prefix line
    rw [← hrest, hreturn, Text.byteLength_append, Text.byteLength_append, Text.byteLength_append]
    omega
  exact location?_eq_some_iff.2 ⟨_, _, h.start, h.length, h.fileText,
    LineIndex.location?_lineStart hfits.size hsplit hlength⟩

theorem getElem?_sourceLines (h : r.IsAbout text above ahead part behind) :
    (Text.sourceLines text.toList)[above.length]? = some (ahead ++ part ++ behind) := by
  obtain ⟨line, below, hsplit, hreturn⟩ := h.line
  simp [Text.sourceLines, hsplit, hreturn]

theorem text_ne_empty (h : r.IsAbout text above ahead part behind) : text ≠ "" := by
  rintro rfl
  have hline := h.getElem?_sourceLines
  have hempty : Text.sourceLines "".toList = [[]] := rfl
  rw [hempty, List.getElem?_singleton] at hline
  split at hline
  · have hnil := Option.some.inj hline
    simp [h.nonempty] at hnil
  · cases hline

/-- The record's diagnostic has a frame with a marker line, whose carets count bytes. -/
theorem carets_normalize (h : r.IsAbout text above ahead part behind)
    (hfits : Text.Fits32 text.toList) :
    ∃ d frame marker, r.normalize = .ok d ∧ d.plainFrame = some frame ∧
      Frame.HasMarker frame (above.length + 1) (ahead ++ part ++ behind) marker ∧
      Frame.caretColumn marker = min (Text.byteLength ahead) (ahead ++ part ++ behind).length ∧
      Frame.caretCount marker = Text.byteLength part := by
  obtain ⟨severity, hseverity⟩ := Option.isSome_iff_exists.1 h.category
  have hlines : ∀ line ∈ Text.sourceLines text.toList, '\n' ∉ line := fun _ =>
    Text.newline_not_mem_of_mem_sourceLines
  have hpart : 0 < Text.byteLength part :=
    Nat.lt_of_lt_of_le (List.length_pos_iff.2 h.nonempty) (Text.length_le_byteLength part)
  generalize hl : (⟨above.length + 1, Text.byteLength ahead + 1, above.length + 1,
    Text.byteLength ahead + Text.byteLength part + 1⟩ : Location) = l
  have hfirst : Frame.firstCovered l = above.length + 1 := by simp [← hl, Frame.firstCovered]
  have hlast : Frame.lastCovered l = above.length + 1 := by
    simp [← hl, Frame.lastCovered, Frame.firstCovered, Location.lastLine]
  have hnumber := (List.getElem?_eq_some_iff.1 h.getElem?_sourceLines).1
  obtain ⟨width, hmarker⟩ :=
    Frame.hasMarker_write hfits.lines hlines h.getElem?_sourceLines hfirst hlast
  have hplain := Frame.plain_render? (l := l) h.text_ne_empty (by omega)
  have hindent := Frame.not_mem_indentBelow (c := '^') (by decide) (by decide)
    (ahead ++ part ++ behind)
  have hnormalize : ∃ d, r.normalize = .ok d ∧
      d.plainFrame = (Frame.render? text l).map (·.plain) := by
    simp only [normalize, hseverity, h.location? hfits, hl]
    exact ⟨_, rfl, rfl⟩
  obtain ⟨d, hd, hframe⟩ := hnormalize
  refine ⟨d, _, _, hd, hframe.trans hplain, hmarker, ?_, ?_⟩
  · rw [Frame.caretColumn_carets (hindent _), ← hl]
    simp [Frame.indentBelow]
  · rw [Frame.caretCount_carets (hindent _), ← hl]
    simp
    omega

end CompilerRecord.IsAbout

/-! ## Main theorem -/

namespace CompilerRecord

/-- A compiler's diagnostic has a frame with a marker line. As many characters stand before the
carets as there are bytes ahead of the range, if the line has so many, and there are as many carets
as the range has bytes. So the carets are below the range exactly if each character up to its end
takes one byte. -/
theorem carets_right_iff {r : CompilerRecord} {text : String} {above : List (List Char)}
    {ahead part behind : List Char} (h : r.IsAbout text above ahead part behind)
    (hfits : Text.Fits32 text.toList) :
    ∃ d frame marker, r.normalize = .ok d ∧ d.plainFrame = some frame ∧
      Frame.HasMarker frame (above.length + 1) (ahead ++ part ++ behind) marker ∧
      Frame.caretColumn marker = min (Text.byteLength ahead) (ahead ++ part ++ behind).length ∧
      Frame.caretCount marker = Text.byteLength part ∧
      ((Frame.caretColumn marker = ahead.length ∧ Frame.caretCount marker = part.length) ↔
        ∀ c ∈ ahead ++ part, c.utf8Size = 1) := by
  obtain ⟨d, frame, marker, hd, hframe, hmarker, hcolumn, hcount⟩ := h.carets_normalize hfits
  refine ⟨d, frame, marker, hd, hframe, hmarker, hcolumn, hcount, ?_⟩
  -- The line has characters behind those that are ahead of the range, so the bound never helps.
  have hpart := List.length_pos_iff.2 h.nonempty
  have hbound : min (Text.byteLength ahead) (ahead ++ part ++ behind).length = ahead.length ↔
      Text.byteLength ahead = ahead.length := by
    rw [List.length_append, List.length_append]
    omega
  rw [hcolumn, hcount, hbound, Text.byteLength_eq_length_iff, Text.byteLength_eq_length_iff,
    List.forall_mem_append]

/-- The second line of a text is in characters of one byte, whatever the first is in. -/
theorem carets_right_second_line :
    let r : CompilerRecord :=
      { fileName := none, fileText := some "// é\r\nlet x\r\n", start := some 11, length := some 1
        message := .plain "m", category := 1, code := 7005 }
    r.IsAbout "// é\r\nlet x\r\n" ["// é\r".toList] "let ".toList "x".toList [] ∧
    Text.Fits32 "// é\r\nlet x\r\n".toList ∧
    ∃ d frame marker, r.normalize = .ok d ∧ d.plainFrame = some frame ∧
      Frame.HasMarker frame 2 "let x".toList marker ∧
      Frame.caretColumn marker = "let ".length ∧ Frame.caretCount marker = 1 := by
  intro r
  have h : r.IsAbout "// é\r\nlet x\r\n" ["// é\r".toList] "let ".toList "x".toList [] :=
    ⟨rfl, rfl, ⟨"let x\r".toList, [[]], by decide, by decide⟩, by decide, by decide, by decide⟩
  have hfits : Text.Fits32 "// é\r\nlet x\r\n".toList := ⟨by decide, by decide⟩
  obtain ⟨d, frame, marker, hd, hframe, hmarker, -, -, hright⟩ := carets_right_iff h hfits
  exact ⟨h, hfits, d, frame, marker, hd, hframe, hmarker,
    hright.2 (Text.byteLength_eq_length_iff.1 rfl)⟩

/-- A range of one character that takes four bytes, behind one that takes two. Four characters stand
before it, but five before the carets, of which there are four instead of one. -/
theorem carets_behind_range :
    let r : CompilerRecord :=
      { fileName := some "/p/a.ts", fileText := some "é = 😀;\n", start := some 5, length := some 4
        message := .plain "m", category := 1, code := 1127 }
    let frame := "  > 1 | é = 😀;\n      |      ^^^^\n    2 |"
    r.IsAbout "é = 😀;\n" [] "é = ".toList "😀".toList ";".toList ∧
    (∃ d, r.normalize = .ok d ∧ d.plainFrame = some frame) ∧
    ∀ marker, Frame.HasMarker frame 1 "é = 😀;".toList marker →
      Frame.caretColumn marker = 5 ∧ Frame.caretCount marker = 4 := by
  intro r frame
  refine ⟨⟨rfl, rfl, ⟨"é = 😀;".toList, [[]], by decide, by decide⟩, by decide, by decide,
    by decide⟩, ⟨_, rfl, rfl⟩, ?_⟩
  rintro marker ⟨width, before, after, hsplit, hbefore⟩
  obtain rfl : before = [] := List.length_eq_zero_iff.1 hbefore
  have hlines : frame.toList.splitOn '\n' =
      ["  > 1 | é = 😀;".toList, "      |      ^^^^".toList, "    2 |".toList] := by decide
  rw [hlines, List.nil_append, List.cons.injEq, List.cons.injEq] at hsplit
  rw [← hsplit.2.1]
  decide

end CompilerRecord

end Sidecheck
