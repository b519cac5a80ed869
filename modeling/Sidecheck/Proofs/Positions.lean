import Sidecheck.Proofs.Offsets
import Sidecheck.Text.Lines
/-!
# Where a line's offsets are

A line begins behind the lines above it and their line feeds, `lineStart`. The offset so many bytes
into a line has that number for its column, whatever the characters are (`position?_lineStart`), and
a range in a line is on that line only (`location?_lineStart`), if the numbers have 32 bits.
-/

namespace Sidecheck

namespace Text

theorem length_le_byteLength (cs : List Char) : cs.length ≤ byteLength cs := by
  induction cs with
  | nil => exact Nat.le_refl 0
  | cons c cs ih =>
    have hc := c.utf8Size_pos
    rw [List.length_cons, byteLength_cons]
    omega

/-- A text has as many bytes as characters if each takes one byte. -/
theorem byteLength_eq_length_iff {cs : List Char} :
    byteLength cs = cs.length ↔ ∀ c ∈ cs, c.utf8Size = 1 := by
  induction cs with
  | nil => simp
  | cons c cs ih =>
    have hc := c.utf8Size_pos
    have hcs := length_le_byteLength cs
    rw [List.forall_mem_cons, ← ih, List.length_cons, byteLength_cons]
    omega

theorem mem_and_ne_of_mem_splitOn {sep : Char} {cs line : List Char} (h : line ∈ cs.splitOn sep) :
    ∀ c ∈ line, c ∈ cs ∧ c ≠ sep := by
  induction cs generalizing line with
  | nil =>
    rw [List.splitOn_nil, List.mem_singleton] at h
    simp [h]
  | cons b cs ih =>
    obtain ⟨first, others, hsplit⟩ := List.exists_cons_of_ne_nil (List.splitOn_ne_nil sep cs)
    rw [hsplit] at ih
    have hlater {line : List Char} (hline : line ∈ first :: others) :
        ∀ c ∈ line, c ∈ b :: cs ∧ c ≠ sep :=
      fun c hc => ⟨.tail _ (ih hline c hc).1, (ih hline c hc).2⟩
    rw [List.splitOn_cons_eq_if_modifyHead, hsplit] at h
    split at h
    · rcases List.mem_cons.1 h with rfl | h
      · simp
      · exact hlater h
    · rename_i hb
      rcases List.mem_cons.1 h with rfl | h
      · rw [List.forall_mem_cons]
        exact ⟨⟨.head _, by simpa using hb⟩, hlater (.head _)⟩
      · exact hlater (.tail _ h)

theorem not_mem_of_mem_splitOn {c : Char} {cs line : List Char} (h : line ∈ cs.splitOn c) :
    c ∉ line :=
  fun hc => (mem_and_ne_of_mem_splitOn h c hc).2 rfl

theorem mem_of_mem_splitOn {sep c : Char} {cs line : List Char} (h : line ∈ cs.splitOn sep)
    (hc : c ∈ line) : c ∈ cs :=
  (mem_and_ne_of_mem_splitOn h c hc).1

theorem not_mem_intercalate {c : Char} {sep : List Char} (hsep : c ∉ sep) {parts : List (List Char)}
    (h : ∀ part ∈ parts, c ∉ part) : c ∉ sep.intercalate parts := by
  induction parts with
  | nil => exact List.not_mem_nil
  | cons first parts ih =>
    obtain ⟨hfirst, hrest⟩ := List.forall_mem_cons.1 h
    cases parts with
    | nil => simpa using hfirst
    | cons next parts =>
      rw [List.intercalate_cons_cons, List.mem_append, List.mem_append]
      rintro ((hmem | hmem) | hmem)
      · exact hfirst hmem
      · exact hsep hmem
      · exact ih hrest hmem

theorem not_mem_dropReturn {c : Char} {line : List Char} (h : c ∉ line) : c ∉ dropReturn line := by
  unfold dropReturn
  split
  · exact fun hc => h (List.dropLast_subset _ hc)
  · exact h

theorem dropReturn_prefix (line : List Char) : dropReturn line <+: line := by
  unfold dropReturn
  split
  · exact List.dropLast_prefix line
  · exact List.prefix_rfl

theorem newline_not_mem_of_mem_sourceLines {cs line : List Char} (h : line ∈ sourceLines cs) :
    '\n' ∉ line := by
  obtain ⟨raw, hraw, rfl⟩ := List.mem_map.1 h
  exact not_mem_dropReturn (not_mem_of_mem_splitOn hraw)

theorem length_splitOn (c : Char) (cs : List Char) :
    (cs.splitOn c).length = cs.count c + 1 := by
  induction cs with
  | nil => simp
  | cons b cs ih =>
    rw [List.splitOn_cons_eq_if_modifyHead, List.count_cons]
    split <;> simp_all

theorem length_sourceLines (cs : List Char) : (sourceLines cs).length = cs.count '\n' + 1 := by
  rw [sourceLines, List.length_map, length_splitOn]

/-- The text around a line: the lines above it, each with its line feed, and those below it. -/
theorem eq_of_splitOn {cs line : List Char} {above below : List (List Char)}
    (h : cs.splitOn '\n' = above ++ line :: below) :
    cs = above.flatMap (· ++ ['\n']) ++ (line ++ below.flatMap ('\n' :: ·)) := by
  have hcs : ['\n'].intercalate (cs.splitOn '\n') = cs := List.intercalate_splitOn '\n'
  rw [← hcs, h]
  clear h hcs
  induction above with
  | nil =>
    induction below generalizing line with
    | nil => simp
    | cons next below ih =>
      have hbelow := @ih next
      rw [List.nil_append] at hbelow ⊢
      rw [List.intercalate_cons_cons, hbelow]
      simp
  | cons first above ih =>
    rw [List.cons_append, List.intercalate_cons_of_ne_nil (by simp), ih]
    simp

end Text

namespace LineIndex

/-! ## Lines of a text -/

/-- Where a line starts that is below other lines. -/
def lineStart (above : List (List Char)) : Nat := Text.byteLength (above.flatMap (· ++ ['\n']))

theorem areLines_above (above : List (List Char)) :
    Text.AreLines (Text.bytes (above.flatMap (· ++ ['\n']))) := by
  rcases List.eq_nil_or_concat above with rfl | ⟨above, l, rfl⟩
  · exact .inl rfl
  · refine .inr ⟨Text.bytes (above.flatMap (· ++ ['\n']) ++ l), ?_⟩
    have hfeed : Text.bytes ['\n'] = [Text.feed] := rfl
    rw [← hfeed, ← Text.bytes_append]
    simp

theorem count_above {above : List (List Char)} (h : ∀ l ∈ above, '\n' ∉ l) :
    (Text.bytes (above.flatMap (· ++ ['\n']))).count Text.feed = above.length := by
  rw [Text.count_bytes]
  induction above with
  | nil => rfl
  | cons l above ih =>
    obtain ⟨hl, habove⟩ := List.forall_mem_cons.1 h
    rw [List.flatMap_cons, List.count_append, ih habove, List.count_append,
      List.count_eq_zero.2 hl, List.length_cons]
    simp [Nat.add_comm]

variable {cs line : List Char} {above below : List (List Char)} {column : Nat}

theorem lineBegins_lineStart (h : cs.splitOn '\n' = above ++ line :: below) :
    Text.LineBegins (Text.bytes cs) above.length (lineStart above) := by
  have habove : ∀ l ∈ above, '\n' ∉ l := fun l hl =>
    Text.not_mem_of_mem_splitOn (h ▸ List.mem_append_left _ hl)
  rw [Text.eq_of_splitOn h, Text.bytes_append]
  exact ⟨_, _, rfl, areLines_above above, count_above habove, Text.length_bytes _⟩

/-- An offset so many bytes into a line is at that column of it. -/
theorem position?_lineStart (hcs : Text.byteLength cs < limit32)
    (h : cs.splitOn '\n' = above ++ line :: below) (hcolumn : column ≤ Text.byteLength line) :
    (ofText cs).position? (lineStart above + column) = some ⟨above.length, column⟩ := by
  have hmem : ∀ l ∈ above ++ line :: below, '\n' ∉ l := fun l hl =>
    Text.not_mem_of_mem_splitOn (h ▸ hl)
  have hpart : Text.feed ∉ (Text.bytes line).take column := fun hfeed =>
    Text.feed_not_mem_bytes (hmem line (by simp)) (List.mem_of_mem_take hfeed)
  have hlength : ((Text.bytes line).take column).length = column := by
    rw [List.length_take, Text.length_bytes, Nat.min_eq_left hcolumn]
  have hbytes : Text.bytes cs = Text.bytes (above.flatMap (· ++ ['\n'])) ++
      (Text.bytes line).take column ++
        ((Text.bytes line).drop column ++ Text.bytes (below.flatMap ('\n' :: ·))) := by
    rw [Text.eq_of_splitOn h, Text.bytes_append, Text.bytes_append, List.append_assoc,
      ← List.append_assoc (List.take ..), List.take_append_drop]
  have hposition := position?_of_bytes hcs hbytes (areLines_above above) hpart
  rwa [List.length_append, hlength, Text.length_bytes,
    count_above fun l hl => hmem l (List.mem_append_left _ hl)] at hposition

theorem bounds_of_position? {offset : Nat} {p : LineColumn} (hcs : Text.byteLength cs < limit32)
    (h : (ofText cs).position? offset = some p) :
    p.line ≤ Text.byteLength cs ∧ p.column ≤ Text.byteLength cs := by
  obtain ⟨hline, start, -, hsum⟩ := lineBegins_of_position? hcs h
  have hcount : ((Text.bytes cs).take offset).count Text.feed ≤ _ := List.count_le_length
  have hlength := List.length_take_le' offset (Text.bytes cs)
  have hle : offset ≤ (ofText cs).size := by
    rw [← Nat.not_lt, ← position?_eq_none_iff, h]
    exact Option.some_ne_none p
  rw [size_ofText hcs] at hle
  rw [Text.length_bytes] at hle hlength
  omega

/-- The positions of a text of which not even the last byte is cut off are counted from one. -/
theorem ofZeroBased_of_position? {offset offset' : Nat} {first last : LineColumn}
    (hcs : Text.byteLength cs + 1 < limit32) (h : (ofText cs).position? offset = some first)
    (h' : (ofText cs).position? offset' = some last) :
    Location.ofZeroBased first last =
      ⟨first.line + 1, first.column + 1, last.line + 1, last.column + 1⟩ := by
  have hfirst := bounds_of_position? (Nat.lt_of_succ_lt hcs) h
  have hlast := bounds_of_position? (Nat.lt_of_succ_lt hcs) h'
  apply Location.ofZeroBased_of_lt <;> omega

/-- A range in a line is on that line, from one column to the other. -/
theorem location?_lineStart {length : Nat} (hcs : Text.byteLength cs + 1 < limit32)
    (h : cs.splitOn '\n' = above ++ line :: below)
    (hlength : column + length ≤ Text.byteLength line) :
    (ofText cs).location? (lineStart above + column) length =
      some ⟨above.length + 1, column + 1, above.length + 1, column + length + 1⟩ := by
  have hlimit := Nat.lt_of_succ_lt hcs
  -- The range ends before the text does, so it is not cut off.
  have hsize : lineStart above + column + length ≤ (ofText cs).size := by
    have hbytes := congrArg Text.byteLength (Text.eq_of_splitOn h)
    rw [Text.byteLength_append, Text.byteLength_append, ← lineStart] at hbytes
    rw [size_ofText hlimit, Text.length_bytes]
    omega
  have hfirst := position?_lineStart hlimit h (Nat.le_of_add_right_le hlength)
  have hlast := position?_lineStart hlimit h hlength
  rw [location?, hfirst, Nat.min_eq_left hsize, Nat.add_assoc, hlast]
  exact congrArg some (ofZeroBased_of_position? hcs hfirst hlast)

end LineIndex

end Sidecheck
