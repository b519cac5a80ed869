import Mathlib.Algebra.GroupWithZero.Nat
import Sidecheck.Listing
import Sidecheck.Proofs.Trimming
/-!
# The first line of a diagnostic

A header is written as `path(line,column): error TS1234: text`, and reading the line gives the
header back: `parse?_written`. What could go wrong is that the line is cut elsewhere. The reader
looks for a header without a place first, and finds none unless the path begins with the word
for a level (`isPrefix_of_parseFinding?`); then it tries every `): `, and the first of them is
the one behind the place unless the path has its own (`parsePlaced?_append`).
-/

namespace Sidecheck

/-! ## Cutting texts -/

namespace Text

/-- The cut is made at the first mark. -/
theorem splitFirst?_append_cons {c : Char} {before : List Char} (after : List Char)
    (h : c ∉ before) : splitFirst? [c] (before ++ c :: after) = some (before, after) := by
  induction before with
  | nil => simp [splitFirst?]
  | cons b before ih =>
    rw [List.mem_cons, not_or] at h
    simp [splitFirst?, h.1, ih h.2]

/-- A beginning that lacks a certain character ends before it. -/
theorem isPrefix_of_not_mem {xs ys rest : List Char} {c : Char} (h : xs <+: ys ++ c :: rest)
    (hc : c ∉ xs) : xs <+: ys := by
  rcases List.prefix_or_prefix_of_prefix h (List.prefix_append ys _) with hxs | ⟨t, rfl⟩
  · exact hxs
  · rw [List.prefix_append_right_inj] at h
    cases t with
    | nil => simp
    | cons a t =>
      obtain ⟨rfl, -⟩ := List.cons_prefix_cons.1 h
      exact absurd (List.mem_append_right ys List.mem_cons_self) hc

/-- What ends in a character that the second half of a text lacks occurs in the first half. -/
theorem isInfix_of_not_mem (xs : List Char) {ys zs : List Char} {c : Char}
    (h : xs ++ [c] <:+: ys ++ zs) (hc : c ∉ zs) : xs ++ [c] <:+: ys := by
  rcases List.infix_append_iff.1 h with h | h | ⟨s, t, hxs, hs, ht⟩
  · exact h
  · exact absurd (h.subset (by simp)) hc
  · rcases List.eq_nil_or_concat t with rfl | ⟨t, a, rfl⟩
    · rw [hxs, List.append_nil]
      exact hs.isInfix
    · rw [List.concat_eq_append, ← List.append_assoc] at hxs
      obtain ⟨-, hca⟩ := List.append_inj' hxs rfl
      rw [List.concat_eq_append, ← hca] at ht
      exact absurd (ht.subset (by simp)) hc

end Text

/-! ## Words for levels -/

namespace Severity

theorem ofName?_name (severity : Severity) :
    ofName? severity.name = some severity := by
  cases severity <;> rfl

theorem not_mem_name (severity : Severity) :
    ' ' ∉ severity.name.toList ∧ '(' ∉ severity.name.toList ∧ '\n' ∉ severity.name.toList := by
  cases severity <;> decide

end Severity

namespace Listing

variable {n : Nat}

/-! ## Numbers -/

theorem isDigit_of_mem_toDigits {c : Char} (h : c ∈ Nat.toDigits 10 n) : c.isDigit = true :=
  Nat.isDigit_of_mem_toDigits (by decide) (by decide) h

theorem not_mem_toDigits {c : Char} (h : c.isDigit = false) : c ∉ Nat.toDigits 10 n := by
  intro hc
  rw [isDigit_of_mem_toDigits hc] at h
  cases h

/-- The digits of a number are read as the number. -/
theorem parseCount?_toDigits (h : n < 2 ^ 32) : parseCount? (Nat.toDigits 10 n) = some n := by
  have hvalue : (Nat.toDigits 10 n).foldl (fun n c => n * 10 + (c.toNat - '0'.toNat)) 0 = n := by
    simpa only [Nat.mul_comm, Nat.ofDigitChars_eq_foldl] using
      Nat.ofDigitChars_ten_toDigits (n := n)
  have hall : (Nat.toDigits 10 n).all Char.isDigit = true :=
    List.all_eq_true.2 fun c hc => isDigit_of_mem_toDigits hc
  have hplus : '+' ∉ Nat.toDigits 10 n := not_mem_toDigits (by decide)
  unfold parseCount?
  cases hdigits : Nat.toDigits 10 n with
  | nil => exact absurd hdigits Nat.toDigits_ne_nil
  | cons c cs =>
    rw [hdigits] at hvalue hall hplus
    have hc : c ≠ '+' := fun heq => hplus (heq ▸ List.mem_cons_self)
    extract_lets digits value
    have hsame : digits = c :: cs := by
      unfold digits
      split
      · rename_i heq
        exact absurd (List.cons.inj heq).1 hc
      · rfl
    have hn : value = n := by rw [← hvalue, ← hsame]
    rw [if_neg (by simp [hsame, hall]), hn]
    exact if_pos h

/-- A number is found where it ends, read from its end to its beginning. -/
theorem countBefore?_toDigits (h : n < 2 ^ 32) {c : Char} (hc : c.isDigit = false)
    (hplus : c ≠ '+') (before : List Char) :
    Header.countBefore? ((Nat.toDigits 10 n).reverse ++ c :: before) = some (n, c :: before) := by
  have hall : ∀ d ∈ (Nat.toDigits 10 n).reverse, d.isDigit = true := fun d hd =>
    isDigit_of_mem_toDigits (List.mem_reverse.1 hd)
  rw [Header.countBefore?, List.dropWhile_append_of_pos hall, List.takeWhile_append_of_pos hall]
  simp [hc, hplus, parseCount?_toDigits h]

/-! ## Headers as they are written -/

/-- A place as it is written, up to the mark that ends it. -/
def Place.start (p : Place) : List Char :=
  p.path ++ '(' :: (Nat.toDigits 10 p.line ++ ',' :: Nat.toDigits 10 p.column)

/-- A place as it is written. -/
def Place.written (p : Place) : List Char := p.start ++ [')', ':', ' ']

/-- The place can be written so that it is read again: its numbers have 32 bits, and its path is
on one line, does not hold the mark that ends a place and does not begin as another line would. -/
structure Place.Printable (p : Place) : Prop where
  line_lt : p.line < 2 ^ 32
  column_lt : p.column < 2 ^ 32
  oneLine : '\n' ∉ p.path
  unmarked : ¬ [')', ':', ' '] <:+: p.path
  notBelow : p.path.head? ≠ some ' '
  notFinding : ∀ severity : Severity, ¬ severity.name.toList ++ [' '] <+: p.path

namespace Header

/-- What is written behind the place. -/
def finding (h : Header) : List Char :=
  h.severity.name.toList ++ ' ' :: 'T' :: 'S' :: (Nat.toDigits 10 h.code ++ ':' :: ' ' :: h.text)

/-- The line that writes the header. -/
def written (h : Header) : List Char := h.place?.elim [] Place.written ++ h.finding

/-- The header can be written so that it is read again. -/
structure Printable (h : Header) : Prop where
  place : ∀ p, h.place? = some p → p.Printable
  code_lt : h.code < 2 ^ 32
  oneLine : '\n' ∉ h.text
  trimmed : Text.trim h.text = h.text

/-- What is written behind a place is read as a header without one. -/
theorem parseFinding?_finding (h : Header) (hp : h.Printable) :
    parseFinding? h.finding = some { h with place? := none } := by
  have hword := Text.splitFirst?_append_cons
    ('T' :: 'S' :: (Nat.toDigits 10 h.code ++ ':' :: ' ' :: h.text))
    (Severity.not_mem_name h.severity).1
  have hcode := Text.splitFirst?_append_cons (' ' :: h.text)
    (not_mem_toDigits (n := h.code) (by decide : (':').isDigit = false))
  have htext : Text.trim (' ' :: h.text) = h.text := hp.trimmed
  simp [parseFinding?, finding, hword, Severity.ofName?_name, hcode,
    parseCount?_toDigits hp.code_lt, htext]

/-- A header without a place begins with the word for its level. -/
theorem isPrefix_of_parseFinding? {cs : List Char} {h : Header} (hcs : parseFinding? cs = some h) :
    ∃ severity : Severity, severity.name.toList ++ [' '] <+: cs := by
  simp only [parseFinding?, Option.bind_eq_bind, Option.bind_eq_some_iff] at hcs
  obtain ⟨⟨word, rest⟩, hsplit, severity, hname, -⟩ := hcs
  refine ⟨severity, rest, ?_⟩
  have hword : severity.name = .ofList word := by simpa using List.find?_some hname
  rw [Text.eq_append_of_splitFirst? hsplit, hword, String.toList_ofList]

/-- With a place in front a line does not look like a header without one. -/
theorem parseFinding?_place {p : Place} (hp : p.Printable) (rest : List Char) :
    parseFinding? (p.written ++ rest) = none := by
  rw [Option.eq_none_iff_forall_ne_some]
  intro h hparse
  obtain ⟨severity, hprefix⟩ := isPrefix_of_parseFinding? hparse
  simp only [Place.written, Place.start, List.append_assoc, List.cons_append] at hprefix
  refine hp.notFinding severity (Text.isPrefix_of_not_mem hprefix ?_)
  rw [List.mem_append, not_or]
  exact ⟨(Severity.not_mem_name severity).2.1, by decide⟩

/-- The first mark ends the place. -/
theorem parsePlaced?_append {before after : List Char} {header : Header} (seen : List Char)
    (hbefore : ¬ [')', ':', ' '] <:+: before ++ [')', ':'])
    (hat : parseAt? (before.reverse ++ seen) after = some header) :
    parsePlaced? seen (before ++ ')' :: ':' :: ' ' :: after) = some header := by
  induction before generalizing seen with
  | nil =>
    rw [List.reverse_nil, List.nil_append] at hat
    simp [parsePlaced?, hat]
  | cons c before ih =>
    rw [List.cons_append, List.infix_cons_iff, not_or] at hbefore
    have hhere : ¬ [')', ':', ' '] <+: c :: (before ++ ')' :: ':' :: ' ' :: after) := by
      intro h
      refine hbefore.1 (List.prefix_of_prefix_length_le h ⟨' ' :: after, by simp⟩ (by simp))
    rw [List.cons_append, parsePlaced?, if_neg (by rwa [List.isPrefixOf_iff_prefix])]
    exact ih (c :: seen) hbefore.2 (by simpa using hat)

/-- The mark behind a place is the first in the line. -/
theorem not_isInfix_start {p : Place} (hp : p.Printable) :
    ¬ [')', ':', ' '] <:+: p.start ++ [')', ':'] := by
  intro h
  rw [Place.start, List.append_assoc] at h
  have hdigits (n : Nat) : ' ' ∉ Nat.toDigits 10 n := not_mem_toDigits (by decide)
  refine hp.unmarked (Text.isInfix_of_not_mem [')', ':'] h ?_)
  simp [hdigits]

/-- A place is read from its end. -/
theorem parseAt?_start {p : Place} (hp : p.Printable) {h : Header} {after : List Char}
    (hafter : parseFinding? after = some h) :
    parseAt? p.start.reverse after = some { h with place? := some p } := by
  have hcolumn := countBefore?_toDigits hp.column_lt (by decide : (',').isDigit = false)
    (by decide) ((Nat.toDigits 10 p.line).reverse ++ '(' :: p.path.reverse)
  have hline := countBefore?_toDigits hp.line_lt (by decide : ('(').isDigit = false)
    (by decide) p.path.reverse
  simp [parseAt?, Place.start, hcolumn, hline, hafter]

/-- Reading the line that writes a header gives the header back. -/
theorem parse?_written (h : Header) (hp : h.Printable) : parse? h.written = some h := by
  have hfinding := parseFinding?_finding h hp
  rcases h with ⟨place?, severity, code, text⟩
  cases place? with
  | none =>
    rw [parse?, written, Option.elim_none, List.nil_append, hfinding]
    rfl
  | some p =>
    have hplace := hp.place p rfl
    have hat := parseAt?_start hplace hfinding
    rw [← List.append_nil p.start.reverse] at hat
    have hplaced := parsePlaced?_append [] (not_isInfix_start hplace) hat
    rw [parse?, written, Option.elim_some, parseFinding?_place hplace]
    simpa [Place.written] using hplaced

/-! ## The line among others -/

variable {h : Header}

theorem oneLine_written (hp : h.Printable) : '\n' ∉ h.written := by
  have hdigits (n : Nat) : '\n' ∉ Nat.toDigits 10 n := not_mem_toDigits (by decide)
  have hplace : '\n' ∉ h.place?.elim [] Place.written := by
    cases hp? : h.place? with
    | none => simp
    | some p => simp [Place.written, Place.start, hdigits, (hp.place p hp?).oneLine]
  simp [written, finding, hdigits, hplace, (Severity.not_mem_name _).2.2, hp.oneLine]

/-- The line begins a block. -/
theorem isBelow_written (hp : h.Printable) : isBelow h.written = false := by
  have hblank : Text.allBlank h.written = false :=
    List.all_eq_false.2 ⟨':', by simp [written, finding], by decide⟩
  have hhead : h.written.head? ≠ some ' ' := by
    cases hp? : h.place? with
    | none =>
      obtain ⟨c, cs, hname, hc⟩ : ∃ c cs, h.severity.name.toList = c :: cs ∧ c ≠ ' ' := by
        cases h.severity <;> exact ⟨_, _, rfl, by decide⟩
      simpa [written, hp?, finding, hname] using hc
    | some p =>
      have hpath := (hp.place p hp?).notBelow
      rw [written, hp?, Option.elim_some, Place.written, Place.start]
      cases hcs : p.path with
      | nil => simp
      | cons c cs => simpa [hcs] using hpath
  simp [isBelow, hblank, hhead]

theorem dropReturn_written (hp : h.Printable) : Text.dropReturn h.written = h.written := by
  have hsplit : h.written = (h.place?.elim [] Place.written ++ h.severity.name.toList ++
      ' ' :: 'T' :: 'S' :: Nat.toDigits 10 h.code ++ [':', ' ']) ++ h.text := by
    simp [written, finding]
  rw [hsplit]
  refine Text.dropReturn_append ?_ hp.trimmed
  rw [List.getLast?_append]
  exact fun hlast => absurd (Option.some.inj hlast) (by decide)

end Header

end Listing

end Sidecheck
