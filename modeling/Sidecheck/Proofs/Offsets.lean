import Mathlib.Data.List.DropRight
import Sidecheck.LineIndex
/-!
# Offsets and positions

An offset counts bytes and may lie inside a character, so lines are looked at here as bytes between
line feeds. A line starts behind the line feed above it (`getElem?_starts`), the table of starts is
ascending, and any search of it finds the same line (`position?_of_search`). So an offset is on the
line that as many line feeds are in front of, at the column that is the number of bytes behind the
last of them (`position?_of_bytes`). From these, an offset and its position give each other, and a
position is that of its offset exactly if it is in the text and not on a later line:
`offsets_positions_inverse`.

The offsets of a text are those of a table as long as its size has 32 bits, which is what the
statements ask for. A sum of an offset and a column may still be too large, so they ask for that
as well.
-/

namespace Sidecheck

namespace Text

/-- The byte of a line feed. -/
def feed : UInt8 := 10

/-- The bytes of a text. -/
def bytes (cs : List Char) : List UInt8 := cs.flatMap String.utf8EncodeChar

theorem bytes_append (xs ys : List Char) : bytes (xs ++ ys) = bytes xs ++ bytes ys := by
  simp [bytes]

theorem toList_toUTF8 (s : String) : s.toUTF8.data.toList = bytes s.toList := by
  rw [String.toUTF8_eq_toByteArray, ← String.utf8Encode_toList, List.utf8Encode,
    List.toList_data_toByteArray, bytes]

@[simp] theorem length_bytes (cs : List Char) : (bytes cs).length = byteLength cs := by
  induction cs with
  | nil => rfl
  | cons c cs ih =>
    rw [byteLength_cons, ← ih, bytes, List.flatMap_cons, List.length_append,
      String.length_utf8EncodeChar, ← bytes]

theorem utf8ByteSize_eq (s : String) : s.utf8ByteSize = byteLength s.toList := by
  rw [← length_bytes, ← toList_toUTF8]
  rfl

/-- No character but the line feed has its byte. -/
theorem feed_not_mem_utf8EncodeChar {c : Char} (h : c ≠ '\n') :
    feed ∉ String.utf8EncodeChar c := by
  have hc : c.val.toNat ≠ 10 := fun hc => h (Char.ext (UInt32.toNat_inj.1 hc))
  intro hmem
  obtain ⟨b, hb, hfeed⟩ : ∃ b ∈ String.utf8EncodeChar c, b.toNat = 10 := ⟨feed, hmem, rfl⟩
  simp only [String.utf8EncodeChar] at hb
  split at hb
  · simp only [List.mem_singleton] at hb
    subst hb
    simp only [UInt8.toNat_ofNat'] at hfeed
    omega
  · -- The bytes of other characters are 128 and above.
    have hbyte : ∀ n, (UInt8.ofNat n).toNat = n % 256 := fun n => UInt8.toNat_ofNat'
    split at hb
    · simp only [List.mem_cons, List.not_mem_nil, or_false] at hb
      rcases hb with rfl | rfl <;> rw [hbyte] at hfeed <;> omega
    · split at hb
      · simp only [List.mem_cons, List.not_mem_nil, or_false] at hb
        rcases hb with rfl | rfl | rfl <;> rw [hbyte] at hfeed <;> omega
      · simp only [List.mem_cons, List.not_mem_nil, or_false] at hb
        rcases hb with rfl | rfl | rfl | rfl <;> rw [hbyte] at hfeed <;> omega

theorem feed_not_mem_bytes {cs : List Char} (h : '\n' ∉ cs) : feed ∉ bytes cs := by
  intro hfeed
  obtain ⟨c, hc, hmem⟩ := List.mem_flatMap.1 hfeed
  exact feed_not_mem_utf8EncodeChar (fun hne => h (hne ▸ hc)) hmem

theorem count_bytes (cs : List Char) : (bytes cs).count feed = cs.count '\n' := by
  induction cs with
  | nil => rfl
  | cons c cs ih =>
    rw [bytes, List.flatMap_cons, List.count_append, ← bytes, ih, List.count_cons]
    by_cases hc : c = '\n'
    · subst hc
      exact Nat.add_comm _ _
    · rw [List.count_eq_zero.2 (feed_not_mem_utf8EncodeChar hc)]
      simp [hc]

/-- The bytes are none, or end with a line feed. -/
def AreLines (bs : List UInt8) : Prop := bs = [] ∨ ∃ xs, bs = xs ++ [feed]

/-- The line of a number begins at an offset: there are as many line feeds in front of it, the last
of them just in front of it. -/
def LineBegins (bs : List UInt8) (line start : Nat) : Prop :=
  ∃ above rest, bs = above ++ rest ∧ AreLines above ∧ above.count feed = line ∧
    above.length = start

theorem count_of_not_mem {part : List UInt8} (h : feed ∉ part) (above : List UInt8) :
    (above ++ part).count feed = above.count feed := by
  rw [List.count_append, List.count_eq_zero.2 h, Nat.add_zero]

/-- The bytes behind the last line feed. -/
theorem rtakeWhile_of_areLines {above part : List UInt8} (habove : AreLines above)
    (hpart : feed ∉ part) : (above ++ part).rtakeWhile (· ≠ feed) = part := by
  induction part using List.reverseRecOn with
  | nil =>
    rcases habove with rfl | ⟨xs, rfl⟩
    · rfl
    · rw [List.append_nil, List.rtakeWhile_concat_neg _ _ _ (by simp)]
  | append_singleton part b ih =>
    rw [List.mem_append, not_or, List.mem_singleton] at hpart
    rw [← List.append_assoc, List.rtakeWhile_concat_pos _ _ _ (by simpa using Ne.symm hpart.2),
      ih hpart.1]

/-- Bytes are lines and what stands behind the last line feed. -/
theorem exists_areLines_append (bs : List UInt8) :
    ∃ above part, bs = above ++ part ∧ AreLines above ∧ feed ∉ part := by
  induction bs using List.reverseRecOn with
  | nil => exact ⟨[], [], rfl, .inl rfl, List.not_mem_nil⟩
  | append_singleton bs b ih =>
    by_cases hb : b = feed
    · exact ⟨bs ++ [b], [], by simp, .inr ⟨bs, by rw [hb]⟩, List.not_mem_nil⟩
    · obtain ⟨above, part, rfl, habove, hpart⟩ := ih
      refine ⟨above, part ++ [b], by simp, habove, ?_⟩
      simp [hpart, Ne.symm hb]

/-- Behind the first line feed that follows, the next line begins. -/
theorem exists_next_lineBegins (above : List UInt8) {part : List UInt8} (h : feed ∈ part)
    (rest : List UInt8) :
    ∃ next, next ≤ (above ++ part).length ∧
      LineBegins (above ++ part ++ rest) (above.count feed + 1) next := by
  obtain ⟨xs, ys, rfl, hxs⟩ := List.eq_append_cons_of_mem h
  refine ⟨(above ++ xs ++ [feed]).length, by simp, above ++ xs ++ [feed], ys ++ rest,
    by simp, .inr ⟨_, rfl⟩, ?_, rfl⟩
  rw [List.count_append, count_of_not_mem hxs, List.count_singleton_self]

theorem exists_lineBegins {bs : List UInt8} {line : Nat} (h : line ≤ bs.count feed) :
    ∃ start, LineBegins bs line start := by
  induction line with
  | zero => exact ⟨0, [], bs, rfl, .inl rfl, rfl, rfl⟩
  | succ line ih =>
    obtain ⟨_, above, rest, rfl, -, hcount, -⟩ := ih (by omega)
    have hrest : feed ∈ rest := by
      rw [← List.count_pos_iff]
      rw [List.count_append] at h
      omega
    obtain ⟨next, -, hnext⟩ := exists_next_lineBegins above hrest []
    rw [List.append_nil, hcount] at hnext
    exact ⟨next, hnext⟩

theorem LineBegins.le_count {bs : List UInt8} {line start offset : Nat}
    (h : LineBegins bs line start) (hle : start ≤ offset) : line ≤ (bs.take offset).count feed := by
  obtain ⟨above, rest, rfl, -, rfl, rfl⟩ := h
  have hprefix : above <+: (above ++ rest).take offset :=
    List.prefix_take_iff.2 ⟨List.prefix_append above rest, hle⟩
  exact hprefix.sublist.count_le feed

end Text

namespace LineIndex

open Text (feed bytes AreLines LineBegins)

/-! ## The table of starts -/

/-- The offsets behind the line feeds among bytes that begin at an offset. -/
def feedEnds : (offset : Nat) → List UInt8 → List Nat
  | _, [] => []
  | offset, b :: bs =>
    if b = feed then (offset + 1) :: feedEnds (offset + 1) bs else feedEnds (offset + 1) bs

theorem feedEnds_append (offset : Nat) (xs ys : List UInt8) :
    feedEnds offset (xs ++ ys) = feedEnds offset xs ++ feedEnds (offset + xs.length) ys := by
  induction xs generalizing offset with
  | nil => rfl
  | cons b xs ih =>
    have hlength : offset + (b :: xs).length = offset + 1 + xs.length := by
      rw [List.length_cons]
      omega
    rw [List.cons_append, feedEnds, feedEnds, ih, hlength]
    split <;> rfl

theorem length_feedEnds (offset : Nat) (bs : List UInt8) :
    (feedEnds offset bs).length = bs.count feed := by
  induction bs generalizing offset with
  | nil => rfl
  | cons b bs ih => by_cases hb : b = feed <;> simp [feedEnds, hb, ih]

theorem feedEnds_of_not_mem {bs : List UInt8} (h : feed ∉ bs) (offset : Nat) :
    feedEnds offset bs = [] := by
  rw [← List.length_eq_zero_iff, length_feedEnds, List.count_eq_zero]
  exact h

theorem bounds_of_mem_feedEnds {offset start : Nat} {bs : List UInt8}
    (h : start ∈ feedEnds offset bs) : offset < start ∧ start ≤ offset + bs.length := by
  induction bs generalizing offset with
  | nil => cases h
  | cons b bs ih =>
    have hrest : start ∈ feedEnds (offset + 1) bs →
        offset < start ∧ start ≤ offset + (b :: bs).length := by
      intro hstart
      have hbounds := ih hstart
      rw [List.length_cons]
      omega
    rw [feedEnds] at h
    split at h
    · rcases List.mem_cons.1 h with rfl | h
      · rw [List.length_cons]
        omega
      · exact hrest h
    · exact hrest h

theorem startsAfter_eq_feedEnds (offset : Nat) (cs : List Char) :
    startsAfter offset cs = feedEnds offset (bytes cs) := by
  induction cs generalizing offset with
  | nil => rfl
  | cons c cs ih =>
    have hcons : bytes (c :: cs) = String.utf8EncodeChar c ++ bytes cs := rfl
    rw [startsAfter, ih, hcons, feedEnds_append, String.length_utf8EncodeChar]
    split
    · rename_i hc
      subst hc
      rfl
    · rename_i hc
      rw [feedEnds_of_not_mem (Text.feed_not_mem_utf8EncodeChar hc), List.nil_append]

theorem lineCount_ofText (cs : List Char) :
    (ofText cs).lineCount = (bytes cs).count feed + 1 := by
  rw [lineCount, ofText, startsAfter_eq_feedEnds, List.length_cons, List.length_map,
    length_feedEnds]

variable {cs : List Char}

/-- No start of a line is cut off. -/
theorem starts_ofText (hcs : Text.byteLength cs < limit32) :
    (ofText cs).starts = 0 :: feedEnds 0 (bytes cs) := by
  rw [ofText, startsAfter_eq_feedEnds, List.cons.injEq]
  refine ⟨rfl, (List.map_congr_left fun start hstart => ?_).trans (List.map_id _)⟩
  have hbounds := bounds_of_mem_feedEnds hstart
  rw [Text.length_bytes] at hbounds
  exact wrap32_of_lt (by omega)

theorem size_ofText (hcs : Text.byteLength cs < limit32) :
    (ofText cs).size = (bytes cs).length := by
  rw [Text.length_bytes]
  exact wrap32_of_lt hcs

/-- Behind lines, the last start is where they end. -/
theorem getLast?_starts {above : List UInt8} (h : AreLines above) :
    (0 :: feedEnds 0 above).getLast? = some above.length := by
  rcases h with rfl | ⟨xs, rfl⟩
  · rfl
  · have hfeed : feedEnds (0 + xs.length) [feed] = [(xs ++ [feed]).length] := by
      simp [feedEnds]
    rw [feedEnds_append, hfeed, ← List.cons_append, List.getLast?_concat]

/-- A line's start is in the table under its number. -/
theorem getElem?_starts (hcs : Text.byteLength cs < limit32) {line start : Nat}
    (h : LineBegins (bytes cs) line start) : (ofText cs).starts[line]? = some start := by
  obtain ⟨above, rest, hbytes, habove, rfl, rfl⟩ := h
  have hlast := getLast?_starts habove
  rw [List.getLast?_eq_getElem?, List.length_cons, length_feedEnds, Nat.add_sub_cancel] at hlast
  rw [starts_ofText hcs, hbytes, feedEnds_append, ← List.cons_append, List.getElem?_append_left,
    hlast]
  rw [List.length_cons, length_feedEnds]
  exact Nat.lt_succ_self _

theorem offset?_of_lineBegins (hcs : Text.byteLength cs < limit32) {line start column : Nat}
    (h : LineBegins (bytes cs) line start) (hcolumn : start + column < limit32) :
    (ofText cs).offset? ⟨line, column⟩ = some (min (start + column) (bytes cs).length) := by
  rw [offset?, getElem?_starts hcs h, size_ofText hcs, Option.map_some, wrap32_of_lt hcolumn]

theorem pairwise_feedEnds (offset : Nat) (bs : List UInt8) :
    (feedEnds offset bs).Pairwise (· < ·) := by
  induction bs generalizing offset with
  | nil => exact .nil
  | cons b bs ih =>
    rw [feedEnds]
    split
    · exact .cons (fun _ hstart => (bounds_of_mem_feedEnds hstart).1) (ih (offset + 1))
    · exact ih (offset + 1)

/-- The table is ascending, so that it can be searched by halving. -/
theorem pairwise_starts (hcs : Text.byteLength cs < limit32) :
    (ofText cs).starts.Pairwise (· < ·) := by
  rw [starts_ofText hcs]
  exact .cons (fun _ hstart => (bounds_of_mem_feedEnds hstart).1) (pairwise_feedEnds 0 _)

/-- Whichever way it is searched, the line is the one that starts no later than the offset while the
next one starts behind it. -/
theorem position?_of_search (hcs : Text.byteLength cs < limit32) {line start offset : Nat}
    (hsize : offset ≤ (ofText cs).size) (hstart : (ofText cs).starts[line]? = some start)
    (hle : start ≤ offset) (hnext : ∀ next ∈ (ofText cs).starts[line + 1]?, offset < next) :
    (ofText cs).position? offset = some ⟨line, offset - start⟩ := by
  obtain ⟨hline, hget⟩ := List.getElem?_eq_some_iff.1 hstart
  have hascending := pairwise_starts hcs
  have hsplit : (ofText cs).starts =
      (ofText cs).starts.take line ++ start :: (ofText cs).starts.drop (line + 1) := by
    rw [← hget, ← List.drop_eq_getElem_cons, List.take_append_drop]
  rw [hsplit, List.pairwise_append] at hascending
  have hupto : (ofText cs).starts.takeWhile (· ≤ offset) =
      (ofText cs).starts.take line ++ [start] := by
    have hbehind : ((ofText cs).starts.drop (line + 1)).takeWhile (· ≤ offset) = [] := by
      cases hdrop : (ofText cs).starts.drop (line + 1) with
      | nil => rfl
      | cons next nexts =>
        have hlt : offset < next := hnext next (by rw [← List.head?_drop, hdrop]; rfl)
        rw [List.takeWhile_cons_of_neg]
        simpa using hlt
    nth_rewrite 1 [hsplit]
    rw [List.takeWhile_append_of_pos, List.takeWhile_cons_of_pos, hbehind]
    · rw [decide_eq_true_eq]
      exact hle
    · intro earlier hearlier
      rw [decide_eq_true_eq]
      exact (hascending.2.2 earlier hearlier start List.mem_cons_self).le.trans hle
  have hlimit : line < limit32 := by
    have hcount : (bytes cs).count feed ≤ (bytes cs).length := List.count_le_length
    rw [← lineCount, lineCount_ofText] at hline
    rw [Text.length_bytes] at hcount
    omega
  rw [position?, if_neg (Nat.not_lt.2 hsize)]
  simp only [hupto, List.length_append, List.length_singleton, Nat.add_sub_cancel,
    List.length_take_of_le hline.le, List.getLastD_concat, wrap32_of_lt hlimit]

/-- An offset is on the line behind the line feeds in front of it, as many bytes into it as follow
the last of them. -/
theorem position?_of_bytes (hcs : Text.byteLength cs < limit32) {above part rest : List UInt8}
    (hbytes : bytes cs = above ++ part ++ rest) (habove : AreLines above) (hpart : feed ∉ part) :
    (ofText cs).position? (above ++ part).length = some ⟨above.count feed, part.length⟩ := by
  have hsize : (above ++ part).length ≤ (ofText cs).size := by
    rw [size_ofText hcs, hbytes, List.append_assoc, List.length_append, List.length_append,
      List.length_append]
    omega
  have hbegins : LineBegins (bytes cs) (above.count feed) above.length :=
    ⟨above, part ++ rest, by rw [hbytes, List.append_assoc], habove, rfl, rfl⟩
  -- The line that follows starts behind a line feed in the rest.
  have hnext : ∀ next ∈ (ofText cs).starts[above.count feed + 1]?,
      (above ++ part).length < next := by
    intro next hnext
    rw [starts_ofText hcs, hbytes, feedEnds_append, feedEnds_append, feedEnds_of_not_mem hpart,
      List.append_nil, ← List.cons_append,
      List.getElem?_append_right (by simp [length_feedEnds])] at hnext
    have hbounds := bounds_of_mem_feedEnds (List.mem_of_getElem? hnext)
    omega
  have hle : above.length ≤ (above ++ part).length := List.length_append ▸ Nat.le_add_right _ _
  rw [position?_of_search hcs hsize (getElem?_starts hcs hbegins) hle hnext, List.length_append,
    Nat.add_sub_cancel_left]

/-- Every offset in the text is on some line. -/
theorem exists_bytes_of_le {offset : Nat} (h : offset ≤ (bytes cs).length) :
    ∃ above part rest, bytes cs = above ++ part ++ rest ∧ AreLines above ∧ feed ∉ part ∧
      (above ++ part).length = offset ∧ (bytes cs).take offset = above ++ part := by
  obtain ⟨above, part, htake, habove, hpart⟩ :=
    Text.exists_areLines_append ((bytes cs).take offset)
  refine ⟨above, part, (bytes cs).drop offset, ?_, habove, hpart, ?_, htake⟩
  · rw [← htake, List.take_append_drop]
  · rw [← htake, List.length_take_of_le h]

theorem start_unique (hcs : Text.byteLength cs < limit32) {line first second : Nat}
    (hfirst : LineBegins (bytes cs) line first) (hsecond : LineBegins (bytes cs) line second) :
    first = second :=
  Option.some.inj ((getElem?_starts hcs hfirst).symm.trans (getElem?_starts hcs hsecond))

/-- A position is on the line of the line feeds in front of its offset, as far into it as the offset
is. -/
theorem lineBegins_of_position? (hcs : Text.byteLength cs < limit32) {offset : Nat} {p : LineColumn}
    (h : (ofText cs).position? offset = some p) :
    p.line = ((bytes cs).take offset).count feed ∧
      ∃ start, LineBegins (bytes cs) p.line start ∧ start + p.column = offset := by
  have hle : offset ≤ (bytes cs).length := by
    rw [← size_ofText hcs, ← Nat.not_lt, ← position?_eq_none_iff, h]
    exact Option.some_ne_none p
  obtain ⟨above, part, rest, hbytes, habove, hpart, rfl, htake⟩ := exists_bytes_of_le hle
  rw [position?_of_bytes hcs hbytes habove hpart] at h
  obtain rfl := Option.some.inj h
  refine ⟨by rw [htake, Text.count_of_not_mem hpart], above.length, ?_, List.length_append.symm⟩
  exact ⟨above, part ++ rest, by rw [hbytes, List.append_assoc], habove, rfl, rfl⟩

/-- A position is that of its offset if it is in the text and in front of the next line. -/
theorem position?_eq_some_iff (hcs : Text.byteLength cs < limit32) {line start column : Nat}
    (h : LineBegins (bytes cs) line start) :
    (ofText cs).position? (min (start + column) (bytes cs).length) = some ⟨line, column⟩ ↔
      start + column ≤ (bytes cs).length ∧
        ∀ next, LineBegins (bytes cs) (line + 1) next → start + column < next := by
  constructor
  · intro hposition
    obtain ⟨hline, start', hstart, hsum⟩ := lineBegins_of_position? hcs hposition
    have hsame : start' = start := start_unique hcs hstart h
    have hoffset : start + column = min (start + column) (bytes cs).length := by
      rw [← hsum, hsame]
    refine ⟨by omega, fun next hnext => ?_⟩
    -- A line that begins no later than the offset has all its line feeds in front of it.
    by_contra hle
    have hcount := hnext.le_count (Nat.le_of_not_lt hle)
    rw [hoffset, ← hline] at hcount
    exact absurd hcount (Nat.not_succ_le_self line)
  · rintro ⟨hle, hnext⟩
    rw [Nat.min_eq_left hle]
    obtain ⟨above, rest, hbytes, habove, rfl, rfl⟩ := h
    rw [hbytes, List.length_append] at hle
    have hlength : (rest.take column).length = column := List.length_take_of_le (by omega)
    have hsplit : bytes cs = above ++ rest.take column ++ rest.drop column := by
      rw [hbytes, List.append_assoc, List.take_append_drop]
    have hpart : feed ∉ rest.take column := by
      intro hfeed
      obtain ⟨next, hend, hbegins⟩ :=
        Text.exists_next_lineBegins above hfeed (rest.drop column)
      rw [← hsplit] at hbegins
      have hlt := hnext next hbegins
      rw [List.length_append, hlength] at hend
      omega
    have hposition := position?_of_bytes hcs hsplit habove hpart
    rwa [List.length_append, hlength] at hposition

/-! ## Main theorem -/

/-- In a text of less than 4 GiB, an offset in the text has a position, on the line that as many
line feeds are in front of, and the position has the offset. A position on a line of the text has an
offset, which is cut off at the end of the text, and the offset has the position unless it is cut
off or on a later line. -/
theorem offsets_positions_inverse {text : String} (htext : text.utf8ByteSize < limit32) :
    let bs := text.toUTF8.data.toList
    let ix := ofText text.toList
    (∀ o, (ix.position? o = none ↔ bs.length < o) ∧
      (o ≤ bs.length → ∃ p, ix.position? o = some p ∧ p.line = (bs.take o).count feed ∧
        p.column = ((bs.take o).rtakeWhile (· ≠ feed)).length ∧ ix.offset? p = some o)) ∧
    (∀ p, (ix.offset? p = none ↔ bs.count feed < p.line) ∧
      (p.line ≤ bs.count feed → ∃ start, LineBegins bs p.line start ∧
        (start + p.column < limit32 →
          ix.offset? p = some (min (start + p.column) bs.length) ∧
          ((ix.offset? p).bind ix.position? = some p ↔
            start + p.column ≤ bs.length ∧
              ∀ next, LineBegins bs (p.line + 1) next → start + p.column < next)))) := by
  intro bs ix
  have hbs : bs = bytes text.toList := Text.toList_toUTF8 text
  have hcs : Text.byteLength text.toList < limit32 := by rwa [← Text.utf8ByteSize_eq]
  rw [hbs]
  refine ⟨fun o => ⟨?_, fun ho => ?_⟩, fun p => ⟨?_, fun hp => ?_⟩⟩
  · rw [position?_eq_none_iff, size_ofText hcs]
  · obtain ⟨above, part, rest, hbytes, habove, hpart, rfl, htake⟩ := exists_bytes_of_le ho
    refine ⟨_, position?_of_bytes hcs hbytes habove hpart, ?_, ?_, ?_⟩
    · rw [htake, Text.count_of_not_mem hpart]
    · rw [htake, Text.rtakeWhile_of_areLines habove hpart]
    · have hbegins : LineBegins (bytes text.toList) (above.count feed) above.length :=
        ⟨above, part ++ rest, by rw [hbytes, List.append_assoc], habove, rfl, rfl⟩
      have hlimit : above.length + part.length < limit32 := by
        rw [List.length_append, Text.length_bytes] at ho
        omega
      rw [offset?_of_lineBegins hcs hbegins hlimit, ← List.length_append, Nat.min_eq_left ho]
  · rw [offset?_eq_none_iff, lineCount_ofText, Nat.succ_le_iff]
  · obtain ⟨start, hstart⟩ := Text.exists_lineBegins hp
    refine ⟨start, hstart, fun hlimit => ?_⟩
    have hoffset := offset?_of_lineBegins hcs hstart hlimit
    refine ⟨hoffset, ?_⟩
    rw [hoffset, Option.bind_some]
    exact position?_eq_some_iff hcs hstart

/-- The offset behind a line feed is the beginning of a line, whatever the characters ahead are. -/
theorem offsets_positions_inverse_second_line :
    let ix := ofText "é\nb".toList
    "é\nb".utf8ByteSize < limit32 ∧ ix.position? 3 = some ⟨1, 0⟩ ∧ ix.offset? ⟨1, 0⟩ = some 3 := by
  intro ix
  have htext : "é\nb".utf8ByteSize < limit32 := by decide
  obtain ⟨p, hposition, hline, hcolumn, hoffset⟩ :=
    ((offsets_positions_inverse htext).1 3).2 (by decide)
  have hp : p = ⟨1, 0⟩ := by
    rw [LineColumn.mk.injEq]
    exact ⟨hline, hcolumn⟩
  exact ⟨htext, hp ▸ hposition, hp ▸ hoffset⟩

end LineIndex

end Sidecheck
