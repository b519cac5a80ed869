import Sidecheck.Normalize
import Sidecheck.Proofs.Layout
/-!
# The lines that a frame flags

A frame knows its lines from cutting the text at line feeds, a location comes from a table of
offsets. Both count the same lines (`lineCount_eq_length_sourceLines`), later offsets have later
positions (`position?_mono`), and a frame flags the lines of its location if the text has them
(`exists_flags`). So a range that begins in a text has a location, and the location a frame that
flags each line of it: `location_framed`. The text's offsets and the numbers of its lines have 32
bits there (`Text.Fits32`); in a text beyond that a range need not have a location
(`location_beyond_limit`).
-/

namespace Sidecheck

/-! ## Positions in order -/

namespace LineIndex

variable {cs : List Char} {offset offset' : Nat} {p p' : LineColumn}

theorem lineCount_eq_length_sourceLines (cs : List Char) :
    (ofText cs).lineCount = (Text.sourceLines cs).length := by
  rw [lineCount_ofText, Text.count_bytes, Text.length_sourceLines]

theorem exists_position? (hcs : Text.byteLength cs < limit32) (h : offset ≤ Text.byteLength cs) :
    ∃ p, (ofText cs).position? offset = some p := by
  rw [← Option.ne_none_iff_exists', ne_eq, position?_eq_none_iff, Nat.not_lt, size_ofText hcs,
    Text.length_bytes]
  exact h

theorem line_lt_lineCount (hcs : Text.byteLength cs < limit32)
    (h : (ofText cs).position? offset = some p) : p.line < (ofText cs).lineCount := by
  have hcount := (List.take_sublist offset (Text.bytes cs)).count_le Text.feed
  rw [lineCount_ofText, (lineBegins_of_position? hcs h).1]
  omega

/-- A later offset is on a later line, or on the same line at a later column. -/
theorem position?_mono (hcs : Text.byteLength cs < limit32) (hle : offset ≤ offset')
    (h : (ofText cs).position? offset = some p) (h' : (ofText cs).position? offset' = some p') :
    p.line < p'.line ∨ p.line = p'.line ∧ p.column ≤ p'.column := by
  obtain ⟨hline, start, hstart, hsum⟩ := lineBegins_of_position? hcs h
  obtain ⟨hline', start', hstart', hsum'⟩ := lineBegins_of_position? hcs h'
  have hcount := (List.take_sublist_take_left (l := Text.bytes cs) hle).count_le Text.feed
  rw [← hline, ← hline'] at hcount
  rcases Nat.lt_or_eq_of_le hcount with hlt | heq
  · exact .inl hlt
  · rw [← heq] at hstart'
    have hsame : start = start' := start_unique hcs hstart hstart'
    exact .inr ⟨heq, by omega⟩

/-- The end may first be cut off at a bound that no text reaches over. -/
theorem location?_saturating {ix : LineIndex} {bound : Nat} (h : ix.size ≤ bound)
    (start length : Nat) :
    ix.location? start (min (start + length) bound - start) = ix.location? start length := by
  simp only [location?]
  by_cases hstart : ix.size < start
  · rw [position?_eq_none_iff.2 hstart]
    rfl
  · have hend : min (start + (min (start + length) bound - start)) ix.size =
        min (start + length) ix.size := by omega
    rw [hend]

theorem isSome_location?_iff (hcs : Text.byteLength cs < limit32) {start length : Nat} :
    ((ofText cs).location? start length).isSome = true ↔ start ≤ Text.byteLength cs := by
  have hsize : (ofText cs).size = Text.byteLength cs := wrap32_of_lt hcs
  constructor
  · intro h
    obtain ⟨l, hl⟩ := Option.isSome_iff_exists.1 h
    obtain ⟨first, hfirst, -⟩ := Option.bind_eq_some_iff.1 hl
    rw [← Nat.not_lt, ← hsize]
    intro hlt
    rw [position?_eq_none_iff.2 hlt] at hfirst
    cases hfirst
  · intro h
    obtain ⟨first, hfirst⟩ := exists_position? hcs h
    obtain ⟨last, hlast⟩ :
        ∃ p, (ofText cs).position? (min (start + length) (ofText cs).size) = some p :=
      exists_position? hcs (hsize ▸ Nat.min_le_right _ _)
    simp [location?, hfirst, hlast]

/-- A location begins on a line of the text. -/
theorem startLine_le_of_location? (hcs : Text.byteLength cs < limit32) {start length : Nat}
    {l : Location} (h : (ofText cs).location? start length = some l) :
    l.startLine ≤ (ofText cs).lineCount := by
  obtain ⟨first, hfirst, h⟩ := Option.bind_eq_some_iff.1 h
  obtain ⟨last, -, h⟩ := Option.bind_eq_some_iff.1 h
  obtain rfl : Location.ofZeroBased first last = l := Option.some.inj h
  exact (wrap32_le _).trans (line_lt_lineCount hcs hfirst)

/-- A location ends where it begins or behind, and on a line of the text. -/
theorem bounds_of_location? (hcs : Text.byteLength cs + 1 < limit32) {start length : Nat}
    {l : Location} (h : (ofText cs).location? start length = some l) :
    (l.startLine < l.endLine ∨ l.startLine = l.endLine ∧ l.startColumn ≤ l.endColumn) ∧
      1 ≤ l.startLine ∧ l.endLine ≤ (ofText cs).lineCount := by
  have hlimit := Nat.lt_of_succ_lt hcs
  obtain ⟨first, hfirst, h⟩ := Option.bind_eq_some_iff.1 h
  obtain ⟨last, hlast, h⟩ := Option.bind_eq_some_iff.1 h
  obtain rfl : Location.ofZeroBased first last = l := Option.some.inj h
  have hstart : start ≤ (ofText cs).size := by
    rw [← Nat.not_lt, ← position?_eq_none_iff, hfirst]
    exact Option.some_ne_none first
  have horder := position?_mono hlimit (by omega) hfirst hlast
  have hline := line_lt_lineCount hlimit hlast
  rw [ofZeroBased_of_position? hcs hfirst hlast]
  simp only
  omega

end LineIndex

/-! ## Rows with a flag -/

namespace Frame

variable {lines : List (List Char)} {l : Location}

/-- What a row with a flag begins with. -/
def flag (color : Bool) : List Char := [' ', ' '] ++ Ansi.paintIf color markStyle ['>']

/-- The row has a flag, the number in a gutter and the line of that number. -/
def FlagsLine (color : Bool) (lines : List (List Char)) (number : Nat) (row : List Char) : Prop :=
  ∃ line blanks, lines[number - 1]? = some line ∧
    row = flag color ++ Ansi.paintIf color gutterStyle
      (' ' :: List.replicate blanks ' ' ++ digits number ++ [' ', '|']) ++
        if line = [] then [] else ' ' :: line

/-- The rows with a flag are those of the lines from the first to the last, in both forms. -/
def Flags (frame : Frame) (lines : List (List Char)) (first last : Nat) : Prop :=
  ∀ color, List.Forall₂ (FlagsLine color lines) (List.range' first (last + 1 - first))
    (((if color then frame.styled else frame.plain).toList.splitOn '\n').filter
      (flag color).isPrefixOf)

/-- The row is that of a covered line. -/
def Row.isFlagged : Row → Bool
  | .source _ flagged _ => flagged
  | .carets _ _ => false

theorem isPrefixOf_write (color : Bool) (width : Nat) (row : Row) :
    (flag color).isPrefixOf (row.write color width) = row.isFlagged := by
  cases row with
  | source number flagged line =>
    cases flagged with
    | true =>
      have hwrite : Row.write color width (.source number true line) =
          flag color ++ (Ansi.paintIf color gutterStyle (gutter width (digits number)) ++
            if line.isEmpty then [] else ' ' :: line) := by
        simp [Row.write, flag]
      rw [hwrite, Row.isFlagged, List.isPrefixOf_iff_prefix]
      exact List.prefix_append _ _
    | false => cases color <;> rfl
  | carets indent count => cases color <;> rfl

theorem flagsLine_write (color : Bool) (width : Nat) {number : Nat} {line : List Char}
    (h : lines[number - 1]? = some line) :
    FlagsLine color lines number (Row.write color width (.source number true line)) := by
  refine ⟨line, width - (digits number).length, h, ?_⟩
  cases line <;> simp [Row.write, flag, gutter]

theorem filter_isFlagged_rowsAt (number : Nat) :
    (rowsAt lines l number).filter Row.isFlagged =
      if firstCovered l ≤ number ∧ number ≤ lastCovered l then
        [.source number true (lines.getD (number - 1) [])] else [] := by
  rw [rowsAt, rowsOfLine]
  split <;> rfl

theorem range'_glue {a b c : Nat} (hab : a ≤ b) (hbc : b ≤ c) :
    List.range' a (b - a) ++ List.range' b (c - b) = List.range' a (c - a) := by
  have hcount : c - a = b - a + (c - b) := by omega
  have hstart : a + 1 * (b - a) = b := by omega
  rw [hcount, ← List.range'_append, hstart]

/-- The rows with a flag are those of the covered lines. -/
theorem filter_isFlagged_rows (htotal : lines.length + linesBelow < limit32)
    (h : lastCovered l ≤ lines.length) :
    (rows lines l).filter Row.isFlagged =
      (List.range' (firstCovered l) (lastCovered l + 1 - firstCovered l)).map
        fun number => .source number true (lines.getD (number - 1) []) := by
  have hfirst : 1 ≤ firstCovered l := Nat.le_max_right _ _
  have hcovered : firstCovered l ≤ lastCovered l + 1 :=
    Nat.le_succ_of_le (Nat.le_max_right _ _)
  have habove : firstShown l ≤ firstCovered l := by
    rw [firstShown]
    omega
  have hbelow : lastCovered l + 1 ≤ lastShown l lines.length + 1 := by
    rw [lastShown_of_lt (by omega) (by omega)]
    omega
  -- The lines that are shown are some above the covered ones, those, and some below.
  rw [rows_eq, List.filter_flatMap, ← range'_glue habove (hcovered.trans hbelow),
    ← range'_glue hcovered hbelow, List.flatMap_append, List.flatMap_append]
  have hnone : ∀ numbers : List Nat,
      (∀ number ∈ numbers, ¬ (firstCovered l ≤ number ∧ number ≤ lastCovered l)) →
      numbers.flatMap (fun number => (rowsAt lines l number).filter Row.isFlagged) = [] := by
    intro numbers hnumbers
    rw [List.flatMap_eq_nil_iff]
    intro number hnumber
    rw [filter_isFlagged_rowsAt, if_neg (hnumbers number hnumber)]
  rw [hnone (List.range' (firstShown l) _), hnone (List.range' (lastCovered l + 1) _),
    List.nil_append, List.append_nil, List.map_eq_flatMap]
  · refine List.flatMap_congr fun number hnumber => ?_
    rw [List.mem_range'_1] at hnumber
    rw [filter_isFlagged_rowsAt, if_pos (by omega)]
  · intro number hnumber
    rw [List.mem_range'_1] at hnumber
    omega
  · intro number hnumber
    rw [List.mem_range'_1] at hnumber
    omega

theorem filter_flag_write {color : Bool} (h : ∀ line ∈ lines, '\n' ∉ line)
    (hrows : rows lines l ≠ []) :
    ((write color lines l).splitOn '\n').filter (flag color).isPrefixOf =
      ((rows lines l).filter Row.isFlagged).map
        (Row.write color (digits (lastShown l lines.length)).length) := by
  have hflags : (flag color).isPrefixOf ∘
      Row.write color (digits (lastShown l lines.length)).length = Row.isFlagged :=
    funext (isPrefixOf_write color _)
  rw [splitOn_write h hrows, List.filter_map, hflags]

/-- A location on lines of a text has a frame, in which its lines are flagged and no others. -/
theorem exists_flags {text : String} (htext : text ≠ "") (hfits : Text.Fits32 text.toList)
    (hfirst : 1 ≤ l.startLine)
    (hends : l.startLine ≤ l.endLine)
    (hlast : l.endLine ≤ (Text.sourceLines text.toList).length) :
    ∃ frame, render? text l = some frame ∧
      frame.Flags (Text.sourceLines text.toList) l.startLine l.endLine := by
  have hfirstCovered : firstCovered l = l.startLine := Nat.max_eq_left hfirst
  have hlastCovered : lastCovered l = l.endLine := by
    rw [lastCovered, Location.lastLine, hfirstCovered]
    omega
  refine ⟨_, render?_of_le htext (by omega), fun color => ?_⟩
  have hwritten : (if color then String.ofList (write true (Text.sourceLines text.toList) l)
      else String.ofList (write false (Text.sourceLines text.toList) l)).toList =
        write color (Text.sourceLines text.toList) l := by
    cases color <;> exact String.toList_ofList
  have hlines : ∀ line ∈ Text.sourceLines text.toList, '\n' ∉ line := fun _ =>
    Text.newline_not_mem_of_mem_sourceLines
  have htotal := hfits.lines
  have hrows : rows (Text.sourceLines text.toList) l ≠ [] := by
    rw [lastCovered_eq] at hlastCovered
    exact rows_ne_nil (by omega) (by omega) (by omega)
  rw [hwritten, filter_flag_write hlines hrows, filter_isFlagged_rows htotal (by omega),
    hfirstCovered, hlastCovered, List.map_map, List.forall₂_map_right_iff, List.forall₂_same]
  intro number hnumber
  rw [List.mem_range'_1] at hnumber
  have hline : (Text.sourceLines text.toList)[number - 1]? =
      some ((Text.sourceLines text.toList).getD (number - 1) []) := by
    rw [List.getD_eq_getElem?_getD, List.getElem?_eq_getElem (by omega), Option.getD_some]
  exact flagsLine_write color _ hline

theorem exists_flags_of_location? {text : String} (htext : text ≠ "")
    (hfits : Text.Fits32 text.toList) {start length : Nat}
    (h : (LineIndex.ofText text.toList).location? start length = some l) :
    ∃ frame, render? text l = some frame ∧
      frame.Flags (Text.sourceLines text.toList) l.startLine l.endLine := by
  obtain ⟨horder, hfirst, hlast⟩ := LineIndex.bounds_of_location? hfits.size h
  rw [LineIndex.lineCount_eq_length_sourceLines] at hlast
  exact exists_flags htext hfits hfirst (by omega) hlast

end Frame

/-- The frame of a compiler's record. -/
def CompilerRecord.frame? (r : CompilerRecord) : Option Frame :=
  r.location?.bind fun located => Frame.render? located.1 located.2

/-- A compiler's diagnostic has the location of its record, and its frame in both forms. -/
theorem CompilerRecord.located_of_normalize {r : CompilerRecord} {d : Diagnostic}
    (h : r.normalize = .ok d) :
    d.location = r.location?.map (·.2) ∧ d.styledFrame = r.frame?.map (·.styled) ∧
      d.plainFrame = r.frame?.map (·.plain) := by
  unfold normalize at h
  split at h
  · cases h
  · obtain rfl := Except.ok.inj h
    rw [frame?]
    cases r.location? <;> exact ⟨rfl, rfl, rfl⟩

/-- A compiler's diagnostic that has a location has a frame of it, and its lines are flagged there
if no number is too large. -/
theorem CompilerRecord.framed_of_normalize {r : CompilerRecord} {d : Diagnostic}
    (hd : r.normalize = .ok d) {text : String} {l : Location} (hl : r.location? = some (text, l))
    (htext : text ≠ "") (hcs : Text.byteLength text.toList < limit32) :
    ∃ frame, Frame.render? text l = some frame ∧ d.styledFrame = some frame.styled ∧
      d.plainFrame = some frame.plain ∧ (Text.Fits32 text.toList →
        frame.Flags (Text.sourceLines text.toList) l.startLine l.endLine) := by
  obtain ⟨start, length, -, -, -, hlocation⟩ := location?_eq_some_iff.1 hl
  have hfirst := LineIndex.startLine_le_of_location? hcs hlocation
  rw [LineIndex.lineCount_eq_length_sourceLines] at hfirst
  have hframe := Frame.render?_of_le htext
    (Nat.max_le.2 ⟨hfirst, List.length_pos_iff.2 (Text.sourceLines_ne_nil _)⟩)
  obtain ⟨-, hstyled, hplain⟩ := located_of_normalize hd
  rw [frame?, hl, Option.bind_some, hframe] at hstyled hplain
  refine ⟨_, hframe, hstyled, hplain, fun hfits => ?_⟩
  obtain ⟨frame, hrender, hflags⟩ := Frame.exists_flags_of_location? htext hfits hlocation
  obtain rfl := Option.some.inj (hframe.symm.trans hrender)
  exact hflags

/-! ## Main theorem -/

/-- In a text of less than 4 GiB, a range that begins in the text, perhaps at its end, has a
location, whatever bound its end is first cut off at. If no number is too large to be counted from
one, the location is in the order of the text and on its lines, and it has a frame that flags these
lines. A compiler's diagnostic of such a range has both forms of the frame. -/
theorem location_framed {text : String} (htext : text ≠ "") (hsize : text.utf8ByteSize < limit32)
    (start length : Nat) :
    let ix := LineIndex.ofText text.toList
    let lines := Text.sourceLines text.toList
    ((ix.location? start length).isSome = true ↔ start ≤ text.utf8ByteSize) ∧
    (∀ bound ≥ text.utf8ByteSize,
      ix.location? start (min (start + length) bound - start) = ix.location? start length) ∧
    (Text.Fits32 text.toList → ∀ l ∈ ix.location? start length,
      (l.startLine < l.endLine ∨ l.startLine = l.endLine ∧ l.startColumn ≤ l.endColumn) ∧
      (1 ≤ l.startLine ∧ l.startLine ≤ ix.lineCount ∧ 1 ≤ l.endLine ∧ l.endLine ≤ ix.lineCount) ∧
      ∃ frame, Frame.render? text l = some frame ∧ frame.Flags lines l.startLine l.endLine) ∧
    ∀ r : CompilerRecord, r.fileText = some text → r.start = some start →
      r.length = some length → start ≤ text.utf8ByteSize →
      r.normalize = .error (.unknownCategory r.category) ∧
          Severity.ofCategory? r.category = none ∨
        ∃ (d : Diagnostic) (l : Location) (frame : Frame), r.normalize = .ok d ∧
          ix.location? start length = some l ∧ Frame.render? text l = some frame ∧
          d.styledFrame = some frame.styled ∧ d.plainFrame = some frame.plain := by
  intro ix lines
  rw [Text.utf8ByteSize_eq] at hsize ⊢
  refine ⟨LineIndex.isSome_location?_iff hsize, fun bound hbound => ?_, fun hfits l hl => ?_,
    fun r hr hstart hlength hle => ?_⟩
  · exact LineIndex.location?_saturating ((wrap32_le _).trans hbound) start length
  · obtain ⟨horder, hfirst, hlast⟩ := LineIndex.bounds_of_location? hfits.size hl
    have hends : l.startLine ≤ l.endLine := by omega
    exact ⟨horder, ⟨hfirst, hends.trans hlast, hfirst.trans hends, hlast⟩,
      Frame.exists_flags_of_location? htext hfits hl⟩
  · obtain ⟨l, hl⟩ : ∃ l, (LineIndex.ofText text.toList).location? start length = some l :=
      Option.isSome_iff_exists.1 ((LineIndex.isSome_location?_iff hsize).2 hle)
    have hlocation : r.location? = some (text, l) :=
      CompilerRecord.location?_eq_some_iff.2 ⟨start, length, hstart, hlength, hr, hl⟩
    cases hseverity : Severity.ofCategory? r.category with
    | none => exact .inl ⟨by simp [CompilerRecord.normalize, hseverity], rfl⟩
    | some severity =>
      obtain ⟨d, hd⟩ : ∃ d, r.normalize = .ok d := by simp [CompilerRecord.normalize, hseverity]
      obtain ⟨frame, hrender, hstyled, hplain, -⟩ :=
        CompilerRecord.framed_of_normalize hd hlocation htext hsize
      exact .inr ⟨d, l, frame, hd, hl, hrender, hstyled, hplain⟩

/-- Behind the last line feed of a text is a line without characters, which has a frame. -/
theorem location_framed_last_line :
    let r : CompilerRecord := {
      fileName := some "/a", fileText := some "a\n", start := some 2, length := some 0xFFFFFFFF
      message := .plain "m", category := 1, code := 1 }
    "a\n" ≠ "" ∧ "a\n".utf8ByteSize < limit32 ∧ Text.Fits32 "a\n".toList ∧
    ∃ (d : Diagnostic) (frame : Frame), r.normalize = .ok d ∧
      r.location? = some ("a\n", ⟨2, 1, 2, 1⟩) ∧ d.plainFrame = some frame.plain ∧
      frame.Flags [['a'], []] 2 2 := by
  intro r
  have htext : "a\n" ≠ "" := by decide
  have hsize : "a\n".utf8ByteSize < limit32 := by decide
  have hfits : Text.Fits32 "a\n".toList := ⟨by decide, by decide⟩
  have hlocation : (LineIndex.ofText "a\n".toList).location? 2 0xFFFFFFFF =
      some ⟨2, 1, 2, 1⟩ := by decide
  obtain ⟨-, -, hframed, hnormalized⟩ := location_framed htext hsize 2 0xFFFFFFFF
  obtain ⟨-, -, frame, hframe, hflags⟩ := hframed hfits _ hlocation
  rcases hnormalized r rfl rfl rfl (by decide) with
    ⟨-, hseverity⟩ | ⟨d, l, frame', hd, hl, hframe', -, hplain⟩
  · exact absurd hseverity (by decide)
  · obtain rfl := Option.some.inj (hlocation.symm.trans hl)
    obtain rfl := Option.some.inj (hframe.symm.trans hframe')
    exact ⟨htext, hsize, hfits, d, frame, hd, by decide, hplain, hflags⟩

theorem Text.byteLength_replicate (n : Nat) : byteLength (List.replicate n 'a') = n := by
  have hone : ∀ c ∈ List.replicate n 'a', c.utf8Size = 1 := by
    intro c hc
    rw [List.eq_of_mem_replicate hc]
    rfl
  rw [byteLength_eq_length_iff.2 hone, List.length_replicate]

/-- The index of a text in one line knows as much of its length as fits. -/
theorem LineIndex.ofText_replicate (n : Nat) :
    ofText (List.replicate n 'a') = ⟨[0], wrap32 n⟩ := by
  have hline : '\n' ∉ List.replicate n 'a' := fun h =>
    absurd (List.eq_of_mem_replicate h) (by decide)
  rw [ofText, startsAfter_eq_feedEnds, feedEnds_of_not_mem (Text.feed_not_mem_bytes hline),
    Text.byteLength_replicate]
  rfl

/-- A text of 4 GiB has no length that fits, so that only its beginning has a location. And a
compiler's record of a category that is not known has no diagnostic that could have a frame. -/
theorem location_beyond_limit :
    let text := String.ofList (List.replicate limit32 'a')
    let r : CompilerRecord := {
      fileName := some "/a", fileText := some "a", start := some 0, length := some 1
      message := .plain "m", category := 9, code := 1 }
    (text ≠ "" ∧ 1 ≤ text.utf8ByteSize ∧
      (LineIndex.ofText text.toList).location? 1 0 = none) ∧
    r.normalize = .error (.unknownCategory 9) := by
  intro text r
  have htext : text.toList = List.replicate limit32 'a' := String.toList_ofList
  have hsize : text.utf8ByteSize = limit32 := by
    rw [Text.utf8ByteSize_eq, htext, Text.byteLength_replicate]
  refine ⟨⟨fun hempty => ?_, ?_, ?_⟩, rfl⟩
  · rw [hempty] at hsize
    exact absurd hsize (by decide)
  · rw [hsize]
    decide
  · rw [htext, LineIndex.ofText_replicate]
    decide

end Sidecheck
