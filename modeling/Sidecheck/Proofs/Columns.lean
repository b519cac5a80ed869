import Mathlib.Order.Bounds.Defs
import Mathlib.Order.Monotone.Defs
import Sidecheck.Proofs.Placing
/-!
# Columns of UTF-16 units

A compiler counts columns in UTF-16 units, and a column may point into the middle of a character or
behind the line. Its offset is at a prefix of the line or in front of it exactly if the prefix has
as many units (`bytesAhead16_le_iff`), and it is itself that of a prefix. So it is the first place
between characters that is not in front of the column (`isLeast_bytesAhead16`). The offset of a
place is then that many bytes behind the beginning of its line, and between two characters of the
text, so that the text can be cut there: `Place.startsAt`. Both are put together in the main
theorem, `columns_become_offsets`, for files whose size can be counted in 32 bits. Beyond that a
place need not have a position: `columns_beyond_limit`.
-/

namespace Sidecheck

namespace Text

/-- The number of UTF-16 units of the characters. -/
def length16 (cs : List Char) : Nat := (cs.map units16).sum

@[simp] theorem length16_nil : length16 [] = 0 := rfl

@[simp] theorem length16_cons (c : Char) (cs : List Char) :
    length16 (c :: cs) = units16 c + length16 cs := by
  simp [length16]

@[simp] theorem length16_append (xs ys : List Char) :
    length16 (xs ++ ys) = length16 xs + length16 ys := by
  simp [length16]

theorem units16_pos (c : Char) : 0 < units16 c := by
  unfold units16
  split <;> decide

/-- The offset is between two characters, or at an end of the text. -/
def IsBoundary (cs : List Char) (offset : Nat) : Prop :=
  ∃ before after, cs = before ++ after ∧ byteLength before = offset

/-- The offset is a boundary that is not in front of the column. -/
def Reaches16 (line : List Char) (column offset : Nat) : Prop :=
  ∃ before after, line = before ++ after ∧ byteLength before = offset ∧ column ≤ length16 before

variable {line : List Char} {column : Nat}

@[simp] theorem bytesAhead16_zero (line : List Char) : bytesAhead16 line 0 = 0 := by
  cases line <;> rfl

theorem bytesAhead16_le_iff {before after : List Char}
    (h : column ≤ length16 (before ++ after)) :
    bytesAhead16 (before ++ after) column ≤ byteLength before ↔ column ≤ length16 before := by
  induction before generalizing column with
  | nil =>
    cases column with
    | zero => simp
    | succ n =>
      cases after with
      | nil => simp at h
      | cons c after =>
        have hc := c.utf8Size_pos
        simp [bytesAhead16]
        omega
  | cons c before ih =>
    cases column with
    | zero => simp
    | succ n =>
      rw [List.cons_append, length16_cons] at h
      have hrest := @ih (n + 1 - units16 c) (by omega)
      rw [List.cons_append, bytesAhead16, byteLength_cons, length16_cons]
      omega

theorem isLeast_bytesAhead16 (h : column ≤ length16 line) :
    IsLeast {offset | Reaches16 line column offset} (bytesAhead16 line column) := by
  constructor
  · obtain ⟨before, after, rfl, hbyte⟩ := bytesAhead16_boundary line column
    exact ⟨before, after, rfl, hbyte.symm, (bytesAhead16_le_iff h).1 hbyte.le⟩
  · rintro _ ⟨before, after, rfl, rfl, hcolumn⟩
    exact (bytesAhead16_le_iff h).2 hcolumn

theorem bytesAhead16_of_length16_lt (h : length16 line < column) :
    bytesAhead16 line column = byteLength line := by
  rw [bytesAhead16_eq_byteLength_iff]
  rintro ahead c behind rfl
  rw [length16_append] at h
  exact Nat.lt_of_le_of_lt (Nat.le_add_right _ _) h

theorem monotone_bytesAhead16 (line : List Char) : Monotone (bytesAhead16 line) := by
  intro first second hle
  by_cases hsecond : second ≤ length16 line
  · obtain ⟨before, after, rfl, hbyte, hcolumn⟩ := (isLeast_bytesAhead16 hsecond).1
    rw [← hbyte]
    exact (bytesAhead16_le_iff (hle.trans hsecond)).2 (hle.trans hcolumn)
  · rw [bytesAhead16_of_length16_lt (Nat.lt_of_not_le hsecond)]
    exact bytesAhead16_le line first

/-- A column that is at a character is the character's first byte. -/
theorem bytesAhead16_append (ahead rest : List Char) :
    bytesAhead16 (ahead ++ rest) (length16 ahead) = byteLength ahead := by
  induction ahead with
  | nil => exact bytesAhead16_zero rest
  | cons c ahead ih =>
    obtain ⟨n, hn⟩ : ∃ n, length16 (c :: ahead) = n + 1 :=
      ⟨length16 (c :: ahead) - 1, by have := units16_pos c; rw [length16_cons]; omega⟩
    have hrest : n + 1 - units16 c = length16 ahead := by
      rw [← hn, length16_cons, Nat.add_sub_cancel_left]
    rw [hn, List.cons_append, bytesAhead16, hrest, ih, byteLength_cons]

/-- Behind a boundary, the text can be cut at each later one. -/
theorem IsBoundary.exists_part {before rest : List Char} {stop : Nat}
    (h : IsBoundary (before ++ rest) stop) (hle : byteLength before ≤ stop) :
    ∃ part after, rest = part ++ after ∧ byteLength before + byteLength part = stop := by
  obtain ⟨xs, ys, hsplit, rfl⟩ := h
  induction before generalizing xs with
  | nil => exact ⟨xs, ys, hsplit, Nat.zero_add _⟩
  | cons c before ih =>
    cases xs with
    | nil =>
      have hc := c.utf8Size_pos
      rw [byteLength_cons, byteLength_nil] at hle
      omega
    | cons d xs =>
      rw [List.cons_append, List.cons_append, List.cons.injEq] at hsplit
      obtain ⟨rfl, hsplit⟩ := hsplit
      rw [byteLength_cons, byteLength_cons] at hle
      obtain ⟨part, after, hrest, hpart⟩ := ih xs hsplit (Nat.le_of_add_le_add_left hle)
      refine ⟨part, after, hrest, ?_⟩
      rw [byteLength_cons, byteLength_cons]
      omega

end Text

theorem LineIndex.startLine_of_location? {ix : LineIndex} {start length : Nat} {p : LineColumn}
    {l : Location} (hposition : ix.position? start = some p)
    (h : ix.location? start length = some l) : l.startLine = wrap32 (p.line + 1) := by
  obtain ⟨first, hfirst, h⟩ := Option.bind_eq_some_iff.1 h
  obtain ⟨last, -, h⟩ := Option.bind_eq_some_iff.1 h
  rw [hposition] at hfirst
  cases hfirst
  cases h
  rfl

namespace Listing

open LineIndex (lineStart)

/-- The offset is that of a place in a text. -/
structure Place.StartsAt (place : Place) (text : List Char) (start : Nat) : Prop where
  /-- It is as far behind the beginning of the place's line as the column says, and no further than
  the line's end. -/
  on_line : ∃ above line below, text.splitOn '\n' = above ++ line :: below ∧
    above.length + 1 = place.line ∧
    start = lineStart above + Text.byteOfColumn16 line (place.column - 1) ∧
    start ≤ lineStart above + Text.byteLength line
  boundary : Text.IsBoundary text start
  le : start ≤ Text.byteLength text
  /-- The text can be cut there, and what is behind at every later boundary. -/
  cut : ∃ rest, Text.dropBytes start text = some rest ∧
    ∀ stop, Text.IsBoundary text stop → start ≤ stop →
      ∃ part after, rest = part ++ after ∧ start + Text.byteLength part = stop
  located : ∀ length, ∃ l, (LineIndex.ofText text).location? start length = some l ∧
    l.startLine = place.line

variable {text : List Char} {place : Place}

/-- A place on a line of the text has an offset, and the name there is what stands behind it. -/
theorem Place.startsAt (htext : Text.byteLength text < limit32) (hnumber : place.line < limit32)
    (hfirst : 1 ≤ place.line) (hlast : place.line ≤ (text.splitOn '\n').length) :
    ∃ start rest, place.StartsAt text start ∧ Text.dropBytes start text = some rest ∧
      range? text place.line place.column = some (start, tokenLength rest) := by
  obtain ⟨above, line, below, h, habove⟩ := exists_splitOn_of_le hfirst hlast
  have hline : above.length + 1 = place.line := by omega
  obtain ⟨ahead, behind, hcut, hbyte⟩ := Text.bytesAhead16_boundary line (place.column - 1)
  subst hcut
  have hsplit := eq_of_splitOn_append h
  have hdrop := dropBytes_of_splitOn h
  have hrange := range?_of_splitOn htext h habove hbyte
  have hahead : Text.byteLength ahead ≤ Text.byteLength (ahead ++ behind) := by
    simp
  have hwhole := byteLength_le_of_splitOn h
  have hle : lineStart above + Text.byteLength ahead ≤ Text.byteLength text := by omega
  refine ⟨_, _, ⟨?_, ?_, hle, ?_, ?_⟩, hdrop, ?_⟩
  · refine ⟨above, ahead ++ behind, below, h, hline, ?_, Nat.add_le_add_left hahead _⟩
    rw [Text.byteOfColumn16_eq (by omega), hbyte]
  · exact ⟨_, _, hsplit, byteLength_above above ahead⟩
  · refine ⟨_, hdrop, fun stop hstop hbehind => ?_⟩
    rw [← byteLength_above] at hbehind ⊢
    exact (hsplit ▸ hstop).exists_part hbehind
  · intro length
    obtain ⟨l, hl⟩ := Option.isSome_iff_exists.1 ((LineIndex.isSome_location?_iff htext).2 hle)
    refine ⟨l, hl, ?_⟩
    rw [LineIndex.startLine_of_location? (LineIndex.position?_lineStart htext h hahead) hl, hline]
    exact wrap32_of_lt hnumber
  · rw [hrange, tokenLength_append]

/-! ## Main theorem -/

/-- A column of a line of less than 4 GiB means the first place between characters with that many
units in front of it, or the end of the line. So a place has an offset in a text of less than 4 GiB
exactly if the text has the line, and the offset is on the line and between two characters. -/
theorem columns_become_offsets :
    (∀ line column, Text.byteLength line < limit32 → column ≤ Text.length16 line →
      IsLeast {offset | Text.Reaches16 line column offset} (Text.byteOfColumn16 line column)) ∧
    (∀ line column, Text.byteLength line < limit32 → Text.length16 line < column →
      Text.byteOfColumn16 line column = Text.byteLength line) ∧
    (∀ line, Text.byteLength line < limit32 → Monotone (Text.byteOfColumn16 line)) ∧
    (∀ ahead c behind, Text.byteLength (ahead ++ c :: behind) < limit32 →
      Text.byteOfColumn16 (ahead ++ c :: behind) (Text.length16 ahead) =
        Text.byteLength ahead) ∧
    ∀ (root text : String) (b : Block) (place : Place), text.utf8ByteSize < limit32 →
      b.header.place? = some place → 1 ≤ place.line → place.line < limit32 →
      let r := b.record root (some text)
      (r.start = none ↔ (text.toList.splitOn '\n').length < place.line) ∧
      ∀ start ∈ r.start, place.StartsAt text.toList start ∧
        ∃ rest, Text.dropBytes start text.toList = some rest ∧
          r.length = some (tokenLength rest) := by
  refine ⟨fun line column hline hcolumn => ?_, fun line column hline hcolumn => ?_,
    fun line hline first second hle => ?_, fun ahead c behind hline => ?_, ?_⟩
  · rw [Text.byteOfColumn16_eq hline]
    exact Text.isLeast_bytesAhead16 hcolumn
  · rw [Text.byteOfColumn16_eq hline]
    exact Text.bytesAhead16_of_length16_lt hcolumn
  · rw [Text.byteOfColumn16_eq hline, Text.byteOfColumn16_eq hline]
    exact Text.monotone_bytesAhead16 line hle
  · rw [Text.byteOfColumn16_eq hline]
    exact Text.bytesAhead16_append ahead _
  · intro root text b place htext hplace hfirst hnumber r
    rw [Text.utf8ByteSize_eq] at htext
    rw [start_record hplace, length_record hplace]
    by_cases hlast : (text.toList.splitOn '\n').length < place.line
    · rw [range?_eq_none (Nat.le_sub_one_of_lt hlast) place.column]
      exact ⟨iff_of_true rfl hlast, fun start hnone => absurd hnone (Option.not_mem_none start)⟩
    · obtain ⟨start, rest, hstarts, hdrop, hrange⟩ :=
        Place.startsAt htext hnumber hfirst (Nat.le_of_not_lt hlast)
      rw [hrange]
      refine ⟨iff_of_false (Option.some_ne_none _) hlast, ?_⟩
      rintro _ ⟨⟩
      exact ⟨hstarts, rest, hdrop, rfl⟩

/-- A column in the middle of a surrogate pair is that of the next character. -/
theorem columns_become_offsets_pair :
    let place : Place := ⟨['a'], 2, 2⟩
    let b : Block := ⟨⟨some place, .error, 1002, ['m']⟩, []⟩
    "é\n😀b\n".utf8ByteSize < limit32 ∧ b.header.place? = some place ∧ 1 ≤ place.line ∧
      place.line < limit32 ∧ (b.record "/p" (some "é\n😀b\n")).start = some 7 ∧
      place.StartsAt "é\n😀b\n".toList 7 := by
  intro place b
  have htext : "é\n😀b\n".utf8ByteSize < limit32 := by decide
  have hstart : (b.record "/p" (some "é\n😀b\n")).start = some 7 := by decide +kernel
  have hfirst : 1 ≤ place.line := by decide
  have hnumber : place.line < limit32 := by decide
  obtain ⟨-, hstarts⟩ :=
    columns_become_offsets.2.2.2.2 "/p" "é\n😀b\n" b place htext rfl hfirst hnumber
  exact ⟨htext, rfl, hfirst, hnumber, hstart, (hstarts 7 hstart).1⟩

/-- The second column of a line of one-byte characters is its second byte, however long it is. -/
theorem offset?_replicate (n : Nat) : offset? (List.replicate (n + 1) 'a') 1 2 = some 1 := by
  have hstart : (LineIndex.ofText (List.replicate (n + 1) 'a')).offset? ⟨1 - 1, 0⟩ = some 0 := by
    rw [LineIndex.ofText_replicate]
    exact congrArg some (Nat.zero_min _)
  have hline : (List.replicate (n + 1) 'a').takeWhile (· ≠ '\n') = List.replicate (n + 1) 'a' := by
    rw [List.takeWhile_eq_self_iff]
    intro c hc
    rw [List.eq_of_mem_replicate hc]
    decide
  have hcolumn : Text.byteOfColumn16 (List.replicate (n + 1) 'a') (2 - 1) = 1 := by
    rw [List.replicate_succ, Text.byteOfColumn16, Text.bytesUpTo16]
    cases n <;> rfl
  simp only [offset?, hstart, Text.dropBytes, Option.bind_eq_bind, Option.bind_some,
    Option.getD_some, hline, hcolumn]
  rfl

/-- A place in a text of 4 GiB has an offset, but that has no location. And a place has none if its
file's path was written in another way before, by which the file cannot be read. -/
theorem columns_beyond_limit :
    let text := String.ofList (List.replicate limit32 'a')
    let b : Block := ⟨⟨some ⟨['a'], 1, 2⟩, .error, 1002, ['m']⟩, []⟩
    let readable := project "let x = 1;\n"
    ((b.record "/p" (some text)).start = some 1 ∧
      (LineIndex.ofText text.toList).location? 1 0 = none) ∧
    readable.readText "/p/a" = .ok "let x = 1;\n" ∧
      (records readable "/p" "a/(1,5): error TS1: one\na(1,5): error TS2: two\n").map
        (fun r => (r.fileName, r.start)) = [(some "/p/a/", none), (some "/p/a", none)] := by
  intro text b readable
  have htext : text.toList = List.replicate limit32 'a' := String.toList_ofList
  have hlimit : limit32 = 0xFFFFFFFF + 1 := rfl
  refine ⟨⟨?_, ?_⟩, by decide +kernel, by decide +kernel⟩
  · rw [start_record rfl, range?, htext, hlimit, offset?_replicate]
    rfl
  · rw [htext, LineIndex.ofText_replicate]
    decide

end Listing

end Sidecheck
