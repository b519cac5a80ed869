import Sidecheck.Listing
import Sidecheck.Proofs.Flagging
/-!
# The line of a place

A listing says where a finding is by a line and a column, and a record says it by the range of the
name that stands there. The range begins on that line, and a name does not reach over a line feed
(`tokenLength_append`), so the range ends on the line if any of its characters stands at the column
or behind it. If none does, the range is one byte all the same: at the end of the text it is cut
off, and elsewhere it is the line feed, so that it ends on the next line
(`Place.location?_of_range?`). What becomes of a finding in a text whose
offsets and lines have numbers of 32 bits is the main theorem, `ends_on_line_iff`.
-/

namespace Sidecheck

namespace Text

theorem takeWhile_append_below {p : Char → Bool} (hp : p '\n' = false) (cs : List Char)
    (below : List (List Char)) :
    (cs ++ below.flatMap ('\n' :: ·)).takeWhile p = cs.takeWhile p := by
  induction cs with
  | nil => cases below <;> simp [hp]
  | cons c cs ih => simp only [List.cons_append, List.takeWhile_cons, ih]

/-- Every character of the line begins in front of the column, in UTF-16 units. -/
def IsBehind16 (line : List Char) (column : Nat) : Prop :=
  ∀ ahead c behind, line = ahead ++ c :: behind → (ahead.map units16).sum < column

/-! ### Columns of a line whose bytes can be counted -/

/-- The bytes in front of the first character that has at least `column` units before it, all bytes
if there is none. -/
def bytesAhead16 : (line : List Char) → (column : Nat) → Nat
  | [], _ => 0
  | _, 0 => 0
  | c :: rest, column + 1 => c.utf8Size + bytesAhead16 rest (column + 1 - units16 c)

theorem units16_le_utf8Size (c : Char) : units16 c ≤ c.utf8Size := by
  have hpos := c.utf8Size_pos
  unfold units16
  split
  · exact hpos
  · rename_i hlarge
    -- Only a character of one byte would be too short.
    have hbytes : c.utf8Size ≠ 1 := by
      rw [ne_eq, Char.utf8Size_eq_one_iff]
      intro hascii
      have hsmall : c.toNat ≤ 127 := hascii
      omega
    omega

theorem bytesAhead16_le (line : List Char) (column : Nat) :
    bytesAhead16 line column ≤ byteLength line := by
  induction line generalizing column with
  | nil => simp [bytesAhead16]
  | cons c rest ih =>
    cases column with
    | zero => simp [bytesAhead16]
    | succ n =>
      have hrest := ih (n + 1 - units16 c)
      rw [bytesAhead16, byteLength_cons]
      omega

/-- A character has no more units than bytes, so their number is not too large before that of the
bytes is. -/
theorem bytesUpTo16_eq {line : List Char} {column counted : Nat}
    (h : counted + byteLength line < limit32) :
    bytesUpTo16 column counted line = bytesAhead16 line (column - counted) := by
  induction line generalizing counted with
  | nil => simp [bytesUpTo16, bytesAhead16]
  | cons c rest ih =>
    have hunits := units16_le_utf8Size c
    rw [byteLength_cons] at h
    rw [bytesUpTo16, wrap32_of_lt (by omega), ih (by omega)]
    cases hcolumn : column - counted with
    | zero =>
      rw [if_pos (Nat.le_of_sub_eq_zero hcolumn), bytesAhead16]
      exact List.cons_ne_nil c rest
    | succ n =>
      rw [if_neg (by omega), bytesAhead16, Nat.sub_add_eq, hcolumn]

theorem byteOfColumn16_eq {line : List Char} (h : byteLength line < limit32) (column : Nat) :
    byteOfColumn16 line column = bytesAhead16 line column := by
  rw [byteOfColumn16, bytesUpTo16_eq (by rwa [Nat.zero_add]), Nat.sub_zero]
  exact wrap32_of_lt (Nat.lt_of_le_of_lt (bytesAhead16_le line column) h)

/-- They end in front of a character, or are all of the line. -/
theorem bytesAhead16_boundary (line : List Char) (column : Nat) :
    ∃ before after, line = before ++ after ∧ bytesAhead16 line column = byteLength before := by
  induction line generalizing column with
  | nil => exact ⟨[], [], rfl, rfl⟩
  | cons c rest ih =>
    cases column with
    | zero => exact ⟨[], c :: rest, rfl, rfl⟩
    | succ n =>
      obtain ⟨before, after, hsplit, hbyte⟩ := ih (n + 1 - units16 c)
      exact ⟨c :: before, after, by simp [hsplit], by simp [bytesAhead16, hbyte]⟩

theorem bytesAhead16_eq_byteLength_iff {line : List Char} {column : Nat} :
    bytesAhead16 line column = byteLength line ↔ IsBehind16 line column := by
  induction line generalizing column with
  | nil => simp [bytesAhead16, IsBehind16]
  | cons c line ih =>
    have hc := c.utf8Size_pos
    cases column with
    | zero =>
      simp only [bytesAhead16, byteLength_cons]
      constructor
      · omega
      · exact fun h => absurd (h [] c line rfl) (Nat.not_lt_zero _)
    | succ column =>
      rw [bytesAhead16, byteLength_cons, Nat.add_left_cancel_iff, ih]
      constructor
      · intro h ahead d behind hsplit
        cases ahead with
        | nil => exact Nat.succ_pos column
        | cons first ahead =>
          rw [List.cons_append, List.cons.injEq] at hsplit
          obtain ⟨rfl, hsplit⟩ := hsplit
          have hlt := h ahead d behind hsplit
          rw [List.map_cons, List.sum_cons]
          omega
      · intro h ahead d behind hsplit
        have hlt := h (c :: ahead) d behind (by rw [hsplit, List.cons_append])
        rw [List.map_cons, List.sum_cons] at hlt
        omega

/-- A line is cut at a column, and nothing is left if the column is behind it. -/
theorem exists_cut16 (line : List Char) (column : Nat) :
    ∃ ahead rest, line = ahead ++ rest ∧ bytesAhead16 line column = byteLength ahead ∧
      (rest = [] ↔ IsBehind16 line column) := by
  obtain ⟨ahead, rest, hline, hbyte⟩ := bytesAhead16_boundary line column
  refine ⟨ahead, rest, hline, hbyte, ?_⟩
  rw [← bytesAhead16_eq_byteLength_iff, hbyte, hline, byteLength_append, Nat.left_eq_add]
  constructor
  · rintro rfl
    rfl
  · intro hrest
    have hlength := length_le_byteLength rest
    rw [← List.length_eq_zero_iff]
    omega

end Text

namespace Listing

open LineIndex (lineStart)

/-- The place is behind the last character of its line, and a line feed follows. -/
def Place.AtFeed (place : Place) (lines : List (List Char)) : Prop :=
  place.line < lines.length ∧
    ∃ line, lines[place.line - 1]? = some line ∧ Text.IsBehind16 line (place.column - 1)

/-! ## The range of a place -/

/-- A name does not go on behind a line feed. -/
theorem tokenLength_append (cs : List Char) (below : List (List Char)) :
    tokenLength (cs ++ below.flatMap ('\n' :: ·)) = tokenLength cs := by
  have hfeed : isTokenChar '\n' = false := by decide
  rw [tokenLength, Text.takeWhile_append_below hfeed, tokenLength]

theorem tokenLength_le {cs : List Char} (h : cs ≠ []) : tokenLength cs ≤ Text.byteLength cs := by
  have hpos : 0 < cs.length := List.length_pos_iff.2 h
  have hlength := Text.length_le_byteLength cs
  have hwhole : Text.byteLength (cs.takeWhile isTokenChar ++ cs.dropWhile isTokenChar) =
      Text.byteLength cs := by rw [List.takeWhile_append_dropWhile]
  rw [Text.byteLength_append] at hwhole
  rw [tokenLength]
  exact (wrap32_le _).trans (by omega)

variable {text line ahead rest : List Char} {above below : List (List Char)} {number : Nat}

theorem exists_splitOn_of_le (hfirst : 1 ≤ number) (hlast : number ≤ (text.splitOn '\n').length) :
    ∃ above line below, text.splitOn '\n' = above ++ line :: below ∧ number - 1 = above.length := by
  have hlt : number - 1 < (text.splitOn '\n').length := by omega
  refine ⟨(text.splitOn '\n').take (number - 1), (text.splitOn '\n')[number - 1],
    (text.splitOn '\n').drop (number - 1 + 1), ?_, (List.length_take_of_le hlt.le).symm⟩
  rw [← List.drop_eq_getElem_cons, List.take_append_drop]

/-- The text around a place on a line. -/
theorem eq_of_splitOn_append (h : text.splitOn '\n' = above ++ (ahead ++ rest) :: below) :
    text = (above.flatMap (· ++ ['\n']) ++ ahead) ++ (rest ++ below.flatMap ('\n' :: ·)) := by
  rw [Text.eq_of_splitOn h]
  simp only [List.append_assoc]

theorem byteLength_above (above : List (List Char)) (ahead : List Char) :
    Text.byteLength (above.flatMap (· ++ ['\n']) ++ ahead) =
      lineStart above + Text.byteLength ahead := by
  rw [Text.byteLength_append, lineStart]

theorem dropBytes_of_splitOn (h : text.splitOn '\n' = above ++ (ahead ++ rest) :: below) :
    Text.dropBytes (lineStart above + Text.byteLength ahead) text =
      some (rest ++ below.flatMap ('\n' :: ·)) := by
  rw [eq_of_splitOn_append h, ← byteLength_above, Text.dropBytes_byteLength]

theorem byteLength_le_of_splitOn (h : text.splitOn '\n' = above ++ line :: below) :
    lineStart above + Text.byteLength line ≤ Text.byteLength text := by
  have hbytes := congrArg Text.byteLength (Text.eq_of_splitOn h)
  rw [Text.byteLength_append, Text.byteLength_append, ← lineStart] at hbytes
  omega

theorem offset?_of_splitOn (htext : Text.byteLength text < limit32)
    (h : text.splitOn '\n' = above ++ line :: below) (hnumber : number - 1 = above.length)
    (column : Nat) :
    offset? text number column =
      some (lineStart above + Text.bytesAhead16 line (column - 1)) := by
  have hmem : '\n' ∉ line := Text.not_mem_of_mem_splitOn (by rw [h]; simp)
  have hle := byteLength_le_of_splitOn h
  have hahead := Text.bytesAhead16_le line (column - 1)
  have hbegins := LineIndex.lineBegins_lineStart h
  have hstart : (LineIndex.ofText text).offset? ⟨number - 1, 0⟩ = some (lineStart above) := by
    rw [hnumber, LineIndex.offset?_of_lineBegins htext hbegins (by omega), Text.length_bytes,
      Nat.add_zero, Nat.min_eq_left (by omega)]
  have hrest : Text.dropBytes (lineStart above) text =
      some (line ++ below.flatMap ('\n' :: ·)) := @dropBytes_of_splitOn text [] line above below h
  have hline : (line ++ below.flatMap ('\n' :: ·)).takeWhile (· ≠ '\n') = line := by
    rw [Text.takeWhile_append_below (by simp)]
    exact List.takeWhile_eq_self_iff.2 fun c hc => by
      rw [decide_eq_true_eq]
      exact fun heq => hmem (heq ▸ hc)
  simp only [offset?, hstart, hrest, Option.bind_eq_bind, Option.bind_some, Option.getD_some, hline]
  rw [Text.byteOfColumn16_eq (by omega), wrap32_of_lt (by omega)]
  rfl

/-- The range of a place: the name that stands there. -/
theorem range?_of_splitOn (htext : Text.byteLength text < limit32)
    (h : text.splitOn '\n' = above ++ (ahead ++ rest) :: below)
    (hnumber : number - 1 = above.length) {column : Nat}
    (hbyte : Text.bytesAhead16 (ahead ++ rest) (column - 1) = Text.byteLength ahead) :
    range? text number column =
      some (lineStart above + Text.byteLength ahead, tokenLength rest) := by
  rw [range?, offset?_of_splitOn htext h hnumber column, hbyte, Option.map_some,
    dropBytes_of_splitOn h, Option.map_some, Option.getD_some, tokenLength_append]

theorem range?_eq_none (h : (text.splitOn '\n').length ≤ number - 1) (column : Nat) :
    range? text number column = none := by
  have hstart : (LineIndex.ofText text).offset? ⟨number - 1, 0⟩ = none := by
    rw [LineIndex.offset?_eq_none_iff, LineIndex.lineCount_eq_length_sourceLines, Text.sourceLines,
      List.length_map]
    exact h
  rw [range?, offset?, hstart]
  rfl

/-! ## The location of a place -/

/-- At the end of the text there is no byte, and the range is empty. -/
theorem location?_at_end (htext : Text.byteLength text + 1 < limit32)
    (h : text.splitOn '\n' = above ++ [line]) :
    (LineIndex.ofText text).location? (lineStart above + Text.byteLength line) 1 =
      some ⟨above.length + 1, Text.byteLength line + 1, above.length + 1,
        Text.byteLength line + 1⟩ := by
  have hlimit := Nat.lt_of_succ_lt htext
  have hsize : (LineIndex.ofText text).size = lineStart above + Text.byteLength line := by
    rw [LineIndex.size_ofText hlimit, Text.length_bytes, Text.eq_of_splitOn h, List.flatMap_nil,
      List.append_nil, Text.byteLength_append, lineStart]
  have hend : min (lineStart above + Text.byteLength line + 1) (LineIndex.ofText text).size =
      lineStart above + Text.byteLength line := by
    rw [hsize]
    exact Nat.min_eq_right (Nat.le_succ _)
  have hposition := LineIndex.position?_lineStart hlimit h (Nat.le_refl _)
  rw [LineIndex.location?, hend, hposition]
  exact congrArg some (LineIndex.ofZeroBased_of_position? htext hposition hposition)

/-- Elsewhere the byte behind a line is its line feed, and the range ends on the next line. -/
theorem location?_at_feed {next : List Char} (htext : Text.byteLength text + 1 < limit32)
    (h : text.splitOn '\n' = above ++ line :: next :: below) :
    (LineIndex.ofText text).location? (lineStart above + Text.byteLength line) 1 =
      some ⟨above.length + 1, Text.byteLength line + 1, above.length + 2, 1⟩ := by
  have hlimit := Nat.lt_of_succ_lt htext
  have hnext : text.splitOn '\n' = (above ++ [line]) ++ next :: below := by
    rw [h, List.append_assoc, List.singleton_append]
  have hstart : lineStart above + Text.byteLength line + 1 = lineStart (above ++ [line]) := by
    rw [lineStart, lineStart, List.flatMap_append, Text.byteLength_append,
      List.flatMap_singleton, Text.byteLength_append]
    rfl
  have hend : min (lineStart above + Text.byteLength line + 1) (LineIndex.ofText text).size =
      lineStart (above ++ [line]) + 0 := by
    rw [hstart, LineIndex.size_ofText hlimit, Text.length_bytes]
    exact Nat.min_eq_left (Nat.le_of_add_right_le (byteLength_le_of_splitOn hnext))
  have hfirst := LineIndex.position?_lineStart hlimit h (Nat.le_refl _)
  have hlast := LineIndex.position?_lineStart hlimit hnext (Nat.zero_le _)
  rw [LineIndex.location?, hfirst, hend, hlast]
  refine congrArg some ((LineIndex.ofZeroBased_of_position? htext hfirst hlast).trans ?_)
  rw [List.length_append]
  rfl

theorem Place.atFeed_iff {place : Place} {lines : List (List Char)} (hline : 1 ≤ place.line)
    (h : lines = above ++ line :: below) (hnumber : place.line - 1 = above.length) :
    place.AtFeed lines ↔ below ≠ [] ∧ Text.IsBehind16 line (place.column - 1) := by
  have hget : lines[place.line - 1]? = some line := by
    rw [h, hnumber, List.getElem?_append_right (Nat.le_refl _), Nat.sub_self,
      List.getElem?_cons_zero]
  have hlast : place.line < lines.length ↔ below ≠ [] := by
    rw [h, List.length_append, List.length_cons, ← List.length_pos_iff]
    omega
  rw [AtFeed, hlast, hget]
  simp

/-- A place on a line of the text has a location that begins on the line. It ends on it too, or at
the beginning of the next line. -/
theorem Place.location?_of_range? {place : Place} (htext : Text.byteLength text + 1 < limit32)
    (hline : 1 ≤ place.line) (hlast : place.line ≤ (text.splitOn '\n').length) :
    ∃ start length l, range? text place.line place.column = some (start, length) ∧
      (LineIndex.ofText text).location? start length = some l ∧ l.startLine = place.line ∧
      (¬ place.AtFeed (text.splitOn '\n') ∧ l.endLine = place.line ∨
        place.AtFeed (text.splitOn '\n') ∧ l.endLine = place.line + 1 ∧ l.endColumn = 1) := by
  obtain ⟨above, line, below, h, hnumber⟩ := exists_splitOn_of_le hline hlast
  obtain ⟨ahead, rest, hsplit, hbyte, hrest⟩ := Text.exists_cut16 line (place.column - 1)
  have hrange := range?_of_splitOn (Nat.lt_of_succ_lt htext) (hsplit ▸ h) hnumber (hsplit ▸ hbyte)
  have hfirst : above.length + 1 = place.line := by omega
  rw [Place.atFeed_iff hline h hnumber, ← hrest]
  cases rest with
  | nil =>
    rw [List.append_nil] at hsplit
    subst hsplit
    cases below with
    | nil => exact ⟨_, _, _, hrange, location?_at_end htext h, hfirst, .inl ⟨by simp, hfirst⟩⟩
    | cons next below =>
      refine ⟨_, _, _, hrange, location?_at_feed htext h, hfirst, .inr ⟨by simp, ?_, rfl⟩⟩
      exact congrArg (· + 1) hfirst
  | cons c rest =>
    have hin : Text.byteLength ahead + tokenLength (c :: rest) ≤ Text.byteLength line := by
      rw [hsplit, Text.byteLength_append]
      exact Nat.add_le_add_left (tokenLength_le (List.cons_ne_nil c rest)) _
    have hlocation := LineIndex.location?_lineStart htext h hin
    exact ⟨_, _, _, hrange, hlocation, hfirst, .inl ⟨by simp, hfirst⟩⟩

/-! ## The location of a finding -/

/-- The records are those of the blocks, each with the text of its file if it can be read. -/
theorem record_of_getElem? {disk : Disk} {root output : String} {i : Nat} {b : Block}
    {r : CompilerRecord} (hb : (blocks output.toList)[i]? = some b)
    (hr : (records disk root output)[i]? = some r) : r = b.record root r.fileText := by
  rw [records, List.getElem?_map, hb, Option.map_some] at hr
  obtain rfl := Option.some.inj hr
  rfl

theorem exists_normalize_record (root : String) (fileText : Option String) (b : Block) :
    ∃ d, (b.record root fileText).normalize = .ok d := by
  have hseverity : Severity.ofCategory? (b.record root fileText).category =
      some b.header.severity := Severity.ofCategory?_eq_some_iff.2 rfl
  rw [CompilerRecord.normalize, hseverity]
  exact ⟨_, rfl⟩

variable {b : Block} {place : Place}

theorem start_record (hplace : b.header.place? = some place) (root text : String) :
    (b.record root (some text)).start =
      (range? text.toList place.line place.column).map (·.1) := by
  simp [Block.record, hplace]

theorem length_record (hplace : b.header.place? = some place) (root text : String) :
    (b.record root (some text)).length =
      (range? text.toList place.line place.column).map (·.2) := by
  simp [Block.record, hplace]

theorem location?_record_eq_none (hplace : b.header.place? = some place) (root : String)
    {text : String} (h : (text.toList.splitOn '\n').length < place.line) :
    (b.record root (some text)).location? = none := by
  have hrange := range?_eq_none (Nat.le_sub_one_of_lt h) place.column
  simp [CompilerRecord.location?, start_record hplace, hrange]

theorem exists_location?_record (hplace : b.header.place? = some place) (hline : 1 ≤ place.line)
    (root : String) {text : String} (htext : Text.byteLength text.toList + 1 < limit32)
    (h : place.line ≤ (text.toList.splitOn '\n').length) :
    ∃ l, (b.record root (some text)).location? = some (text, l) ∧ l.startLine = place.line ∧
      (¬ place.AtFeed (text.toList.splitOn '\n') ∧ l.endLine = place.line ∨
        place.AtFeed (text.toList.splitOn '\n') ∧ l.endLine = place.line + 1 ∧
          l.endColumn = 1) := by
  obtain ⟨start, length, l, hrange, hl, hends⟩ := place.location?_of_range? htext hline h
  have hstart : (b.record root (some text)).start = some start := by
    rw [start_record hplace, hrange, Option.map_some]
  have hlength : (b.record root (some text)).length = some length := by
    rw [length_record hplace, hrange, Option.map_some]
  exact ⟨l, CompilerRecord.location?_eq_some_iff.2 ⟨start, length, hstart, hlength, rfl, hl⟩, hends⟩

/-! ## Main theorem -/

/-- A finding whose place is on a line of its file has a location that begins on that line. It ends
there too, and only that line is flagged, unless the place is behind the line and a line feed
follows: then the location ends at the beginning of the next line, and that is flagged as well. -/
theorem ends_on_line_iff {disk : Disk} {root output text : String} {i : Nat} {b : Block}
    {r : CompilerRecord} {place : Place} (hb : (blocks output.toList)[i]? = some b)
    (hr : (records disk root output)[i]? = some r) (hplace : b.header.place? = some place)
    (hline : 1 ≤ place.line) (htext : r.fileText = some text)
    (hfits : Text.Fits32 text.toList) :
    let lines := text.toList.splitOn '\n'
    ∃ d, r.normalize = .ok d ∧ (d.location = none ↔ lines.length < place.line) ∧
      ∀ l ∈ d.location, l.startLine = place.line ∧
        (l.endLine = place.line ↔ ¬ place.AtFeed lines) ∧
        (place.AtFeed lines → l.endLine = place.line + 1 ∧ l.endColumn = 1) ∧
        (text ≠ "" → ∃ frame : Frame, d.styledFrame = some frame.styled ∧
          d.plainFrame = some frame.plain ∧
          frame.Flags (Text.sourceLines text.toList) place.line l.endLine) := by
  intro lines
  have hrecord := record_of_getElem? hb hr
  rw [htext] at hrecord
  obtain ⟨d, hd⟩ : ∃ d, r.normalize = .ok d := hrecord ▸ exists_normalize_record root (some text) b
  obtain ⟨hlocation, -, -⟩ := CompilerRecord.located_of_normalize hd
  refine ⟨d, hd, ?_⟩
  by_cases hlast : lines.length < place.line
  · have hnone : d.location = none := by
      rw [hlocation, hrecord, location?_record_eq_none hplace root hlast, Option.map_none]
    rw [hnone]
    exact ⟨iff_of_true rfl hlast, fun _ hl => nomatch hl⟩
  · obtain ⟨l, hl, hfirst, hends⟩ :=
      exists_location?_record hplace hline root hfits.size (Nat.le_of_not_lt hlast)
    rw [← hrecord] at hl
    have hsome : d.location = some l := by
      rw [hlocation, hl]
      rfl
    rw [hsome]
    refine ⟨iff_of_false (Option.some_ne_none l) hlast, ?_⟩
    rintro _ ⟨⟩
    refine ⟨hfirst, ?_, ?_, fun hne => ?_⟩
    · rcases hends with ⟨hfeed, hend⟩ | ⟨hfeed, hend, -⟩
      · exact iff_of_true hend hfeed
      · exact iff_of_false (by omega) (not_not_intro hfeed)
    · intro hfeed
      rcases hends with ⟨hnot, -⟩ | ⟨-, hends⟩
      · exact absurd hfeed hnot
      · exact hends
    · obtain ⟨frame, -, hstyled, hplain, hflags⟩ :=
        CompilerRecord.framed_of_normalize hd hl hne (Nat.lt_of_succ_lt hfits.size)
      rw [hfirst] at hflags
      exact ⟨frame, hstyled, hplain, hflags hfits⟩

/-- A project of one file. -/
def project (text : String) : Disk where
  root := .directory [("p", .directory [("a", .file text.toUTF8 false)])]
  workingDirectory := []

/-- A string without an end is found where its line ends. -/
def unterminated : String := "a(1,9): error TS1002: Unterminated string literal.\n"

/-- At the end of the file it is flagged on its line only. -/
theorem ends_on_line_at_end :
    ∃ b r d, (blocks unterminated.toList)[0]? = some b ∧
      (records (project "s = 'abc") "/p" unterminated)[0]? = some r ∧
      b.header.place? = some ⟨['a'], 1, 9⟩ ∧ 1 ≤ 1 ∧ r.fileText = some "s = 'abc" ∧
      Text.Fits32 "s = 'abc".toList ∧
      r.normalize = .ok d ∧ d.location = some ⟨1, 9, 1, 9⟩ ∧
      ∃ frame : Frame, d.plainFrame = some frame.plain ∧
        frame.Flags ["s = 'abc".toList] 1 1 := by
  have hplaces : (blocks unterminated.toList)[0]?.bind (·.header.place?) =
      some ⟨['a'], 1, 9⟩ := by decide +kernel
  obtain ⟨b, hb, hplace⟩ := Option.bind_eq_some_iff.1 hplaces
  have htexts : (records (project "s = 'abc") "/p" unterminated)[0]?.bind (·.fileText) =
      some "s = 'abc" := by decide +kernel
  obtain ⟨r, hr, htext⟩ := Option.bind_eq_some_iff.1 htexts
  have hlocations : (records (project "s = 'abc") "/p" unterminated)[0]?.bind
      (·.normalize.toOption.bind (·.location)) = some ⟨1, 9, 1, 9⟩ := by decide +kernel
  have hfits : Text.Fits32 "s = 'abc".toList := ⟨by decide, by decide⟩
  obtain ⟨d, hd, -, hends⟩ := ends_on_line_iff hb hr hplace (Nat.le_refl 1) htext hfits
  rw [hr, Option.bind_some, hd] at hlocations
  obtain ⟨-, -, -, hframe⟩ := hends _ hlocations
  obtain ⟨frame, -, hplain, hflags⟩ := hframe (by decide)
  exact ⟨b, r, d, hb, hr, hplace, Nat.le_refl 1, htext, hfits, hd, hlocations, frame, hplain,
    hflags⟩

/-- In front of a line feed the next line is flagged as well. -/
theorem ends_behind_line :
    (blocks unterminated.toList).map (·.header.place?) = [some ⟨['a'], 1, 9⟩] ∧
      (records (project "s = 'abc\n") "/p" unterminated).map
        (fun r => r.normalize.toOption.map fun d => (d.location, d.plainFrame)) =
      [some (some ⟨1, 9, 2, 1⟩,
        some "  > 1 | s = 'abc\n      |         ^\n  > 2 |\n      | ^")] := by
  decide +kernel

end Listing

end Sidecheck
