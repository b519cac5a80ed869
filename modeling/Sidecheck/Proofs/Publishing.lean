import Sidecheck.Check
import Sidecheck.Proofs.Items
import Sidecheck.Proofs.Traversal
import Sidecheck.Proofs.Trimming
/-!
# Published documents

A language server's documents come as an array or one on each line, and what they say is the same
either way: `readPublished_forms`. Which form it is shows at the first character that is no blank,
for a document begins with a brace.

The lines are those of a text that was trimmed, so the first line and the last one may have lost
blanks, and a return may be gone from any of them. `Holds` says of lines that they have the
documents with blanks around and nothing else. It is kept when a text loses a blank at its beginning
(`Holds.of_cons`) or at its end (`Holds.of_concat`), so by trimming (`Holds.trim`) and by cutting
the lines (`Holds.outputLines`).
-/

namespace Sidecheck

namespace Text

/-- A character behind a text that is no line feed goes to the text's last line. -/
theorem exists_splitOn_concat (xs : List Char) {c : Char} (hc : c ≠ '\n') :
    ∃ init last, xs.splitOn '\n' = init ++ [last] ∧
      (xs ++ [c]).splitOn '\n' = init ++ [last ++ [c]] := by
  induction xs with
  | nil => exact ⟨[], [], rfl, List.splitOn_eq_singleton (by simpa using hc.symm)⟩
  | cons x xs ih =>
    obtain ⟨init, last, hxs, hconcat⟩ := ih
    rw [List.cons_append, List.splitOn_cons_eq_if_modifyHead, List.splitOn_cons_eq_if_modifyHead,
      hxs, hconcat]
    split
    · exact ⟨[] :: init, last, rfl, rfl⟩
    · cases init with
      | nil => exact ⟨[], x :: last, rfl, rfl⟩
      | cons first init => exact ⟨(x :: first) :: init, last, rfl, rfl⟩

theorem allBlank_of_concat {line : List Char} {c : Char} (h : allBlank (line ++ [c]) = true) :
    allBlank line = true := by
  rw [allBlank, List.all_append] at h
  exact (Bool.and_eq_true_iff.1 h).1

theorem dropReturn_cases (line : List Char) :
    dropReturn line = line ∨ ∃ init, line = init ++ ['\r'] ∧ dropReturn line = init := by
  rw [dropReturn]
  split
  · rename_i hlast
    obtain ⟨init, rfl⟩ := List.getLast?_eq_some_iff.1 hlast
    exact .inr ⟨init, rfl, List.dropLast_concat⟩
  · exact .inl rfl

end Text

namespace Published

open Json Json.Token

/-! ## Lines that hold texts -/

/-- A text has no blank at either end, and something in between. -/
structure Solid (t : List Char) : Prop where
  first : ∃ c ∈ t.head?, Text.isBlank c = false
  last : ∃ c ∈ t.getLast?, Text.isBlank c = false

/-- A line is a text with blanks around it. -/
def Pads (t line : List Char) : Prop :=
  ∃ before after, Blanks before ∧ Blanks after ∧ line = before ++ t ++ after

/-- Lines hold texts in their order, each on a line of its own, and nothing else but blanks. -/
inductive Holds : List (List Char) → List (List Char) → Prop
  | nil : Holds [] []
  | blank {ts lines : List (List Char)} {line : List Char} (h : Text.allBlank line = true)
      (hlines : Holds ts lines) : Holds ts (line :: lines)
  | text {ts lines : List (List Char)} {t line : List Char} (h : Pads t line)
      (hlines : Holds ts lines) : Holds (t :: ts) (line :: lines)

variable {t line : List Char} {ts lines : List (List Char)} {c : Char}

theorem Pads.of_cons (h : Pads t (c :: line)) (ht : Solid t) (hc : Text.isBlank c = true) :
    Pads t line := by
  obtain ⟨before, after, hbefore, hafter, hline⟩ := h
  cases before with
  | nil =>
    obtain ⟨d, hd, hsolid⟩ := ht.first
    obtain ⟨rest, rfl⟩ := List.head?_eq_some_iff.1 hd
    rw [← (List.cons.inj hline).1, hc] at hsolid
    cases hsolid
  | cons d before =>
    exact ⟨before, after, (List.forall_mem_cons.1 hbefore).2, hafter, (List.cons.inj hline).2⟩

theorem Pads.of_concat (h : Pads t (line ++ [c])) (ht : Solid t) (hc : Text.isBlank c = true) :
    Pads t line := by
  obtain ⟨before, after, hbefore, hafter, hline⟩ := h
  rcases List.eq_nil_or_concat after with rfl | ⟨after, d, rfl⟩
  · obtain ⟨d, hd, hsolid⟩ := ht.last
    obtain ⟨init, rfl⟩ := List.getLast?_eq_some_iff.1 hd
    rw [List.append_nil, ← List.append_assoc] at hline
    rw [← List.singleton_inj.1 (List.append_inj_right' hline rfl), hc] at hsolid
    cases hsolid
  · rw [List.concat_eq_append, ← List.append_assoc] at hline
    rw [List.concat_eq_append] at hafter
    exact ⟨before, after, hbefore, fun d hd => hafter d (List.mem_append_left _ hd),
      List.append_inj_left' hline rfl⟩

theorem Pads.allBlank_eq_false (h : Pads t line) (ht : Solid t) : Text.allBlank line = false := by
  obtain ⟨before, after, -, -, rfl⟩ := h
  obtain ⟨c, hc, hsolid⟩ := ht.first
  rw [Text.allBlank, List.all_eq_false]
  exact ⟨c, by simp [List.mem_of_head? hc], by simp [hsolid]⟩

namespace Holds

theorem append {ts' lines' : List (List Char)} (h : Holds ts lines) (h' : Holds ts' lines') :
    Holds (ts ++ ts') (lines ++ lines') := by
  induction h with
  | nil => exact h'
  | blank hblank _ ih => exact .blank hblank ih
  | text hpads _ ih => exact .text hpads ih

theorem exists_append {above below : List (List Char)} (h : Holds ts (above ++ below)) :
    ∃ ts₁ ts₂, ts = ts₁ ++ ts₂ ∧ Holds ts₁ above ∧ Holds ts₂ below := by
  induction above generalizing ts with
  | nil => exact ⟨[], ts, rfl, .nil, h⟩
  | cons line above ih =>
    cases h with
    | blank hblank hlines =>
      obtain ⟨ts₁, ts₂, hts, habove, hbelow⟩ := ih hlines
      exact ⟨ts₁, ts₂, hts, .blank hblank habove, hbelow⟩
    | @text ts _ t _ hpads hlines =>
      obtain ⟨ts₁, ts₂, rfl, habove, hbelow⟩ := ih hlines
      exact ⟨t :: ts₁, ts₂, rfl, .text hpads habove, hbelow⟩

/-- A change to lines that keeps blanks blank and texts where they are. -/
theorem map {f : List Char → List Char} (h : Holds ts lines)
    (hblank : ∀ line, Text.allBlank line = true → Text.allBlank (f line) = true)
    (hpads : ∀ t ∈ ts, ∀ line, Pads t line → Pads t (f line)) : Holds ts (lines.map f) := by
  induction h with
  | nil => exact .nil
  | blank h _ ih => exact .blank (hblank _ h) (ih hpads)
  | text h _ ih =>
    obtain ⟨hfirst, hrest⟩ := List.forall_mem_cons.1 hpads
    exact .text (hfirst _ h) (ih hrest)

theorem of_nil_cons (h : Holds ts ([] :: lines)) (hts : ∀ t ∈ ts, Solid t) : Holds ts lines := by
  cases h with
  | blank _ hlines => exact hlines
  | text hpads _ => cases hpads.allBlank_eq_false (hts _ List.mem_cons_self)

/-- The text loses a blank at its beginning. -/
theorem of_cons {cs : List Char} (h : Holds ts ((c :: cs).splitOn '\n')) (hts : ∀ t ∈ ts, Solid t)
    (hc : Text.isBlank c = true) : Holds ts (cs.splitOn '\n') := by
  rw [List.splitOn_cons_eq_if_modifyHead] at h
  split at h
  · exact of_nil_cons h hts
  · obtain ⟨first, more, hcut⟩ := List.exists_cons_of_ne_nil (List.splitOn_ne_nil '\n' cs)
    rw [hcut] at h ⊢
    cases h with
    | blank hblank hlines => exact .blank ((Bool.and_eq_true_iff.1 hblank).2) hlines
    | text hpads hlines => exact .text (hpads.of_cons (hts _ List.mem_cons_self) hc) hlines

/-- The text loses a blank at its end. -/
theorem of_concat {cs : List Char} (h : Holds ts ((cs ++ [c]).splitOn '\n'))
    (hts : ∀ t ∈ ts, Solid t) (hc : Text.isBlank c = true) : Holds ts (cs.splitOn '\n') := by
  by_cases hfeed : c = '\n'
  · rw [hfeed, List.splitOn_append_cons_self, List.splitOn_nil] at h
    obtain ⟨ts₁, ts₂, rfl, habove, hlast⟩ := h.exists_append
    have hnone := hlast.of_nil_cons fun t ht => hts t (List.mem_append_right _ ht)
    cases hnone
    rwa [List.append_nil]
  · obtain ⟨init, last, hcs, hconcat⟩ := Text.exists_splitOn_concat cs hfeed
    rw [hconcat] at h
    obtain ⟨ts₁, ts₂, rfl, habove, hlast⟩ := h.exists_append
    rw [hcs]
    refine habove.append ?_
    cases hlast with
    | blank hblank hnone => exact .blank (Text.allBlank_of_concat hblank) hnone
    | text hpads hnone => exact .text (hpads.of_concat (hts _ (by simp)) hc) hnone

theorem trimStart {cs : List Char} (h : Holds ts (cs.splitOn '\n')) (hts : ∀ t ∈ ts, Solid t) :
    Holds ts ((Text.trimStart cs).splitOn '\n') := by
  induction cs with
  | nil => exact h
  | cons c cs ih =>
    rw [Text.trimStart, List.dropWhile_cons]
    split
    · rename_i hc
      exact ih (h.of_cons hts hc)
    · exact h

theorem trim {cs : List Char} (h : Holds ts (cs.splitOn '\n')) (hts : ∀ t ∈ ts, Solid t) :
    Holds ts ((Text.trim cs).splitOn '\n') := by
  have hstart := h.trimStart hts
  obtain ⟨tail, htail, hblank⟩ :=
    Text.exists_eq_dropWhileEnd_append Text.isBlank (Text.trimStart cs)
  rw [htail] at hstart
  rw [Text.trim, Text.trimEnd]
  -- The blanks at the end go one by one, the last one first.
  generalize Text.dropWhileEnd Text.isBlank (Text.trimStart cs) = kept at hstart ⊢
  clear htail
  induction tail using List.reverseRecOn with
  | nil => rwa [List.append_nil] at hstart
  | append_singleton tail c ih =>
    obtain ⟨htail, hc⟩ := List.forall_mem_append.1 hblank
    rw [← List.append_assoc] at hstart
    exact ih htail (hstart.of_concat hts (hc c List.mem_cons_self))

theorem outputLines {cs : List Char} (h : Holds ts (cs.splitOn '\n')) (hts : ∀ t ∈ ts, Solid t) :
    Holds ts (Text.outputLines cs) := by
  obtain ⟨init, last, hcs⟩ : ∃ init last, cs.splitOn '\n' = init ++ [last] := by
    rcases List.eq_nil_or_concat (cs.splitOn '\n') with hnil | ⟨init, last, hcs⟩
    · exact absurd hnil (List.splitOn_ne_nil '\n' cs)
    · exact ⟨init, last, hcs.trans List.concat_eq_append⟩
  rw [Text.outputLines, hcs, List.dropLast_concat, List.getLast?_concat]
  rw [hcs] at h
  obtain ⟨ts₁, ts₂, rfl, habove, hlast⟩ := h.exists_append
  obtain ⟨hts₁, hts₂⟩ := List.forall_mem_append.1 hts
  -- A return is a blank, so a line without it holds what it held.
  refine (habove.map (fun line hblank => ?_) fun t ht line hpads => ?_).append ?_
  · rcases Text.dropReturn_cases line with hsame | ⟨init, rfl, hinit⟩
    · rwa [hsame]
    · rw [hinit]
      exact Text.allBlank_of_concat hblank
  · rcases Text.dropReturn_cases line with hsame | ⟨init, rfl, hinit⟩
    · rwa [hsame]
    · rw [hinit]
      exact hpads.of_concat (hts₁ t ht) (by decide)
  · cases last with
    | nil => exact hlast.of_nil_cons hts₂
    | cons c last => exact hlast

end Holds

/-! ## Documents -/

variable {found : List ServerRecord}

/-- A document with marks of an array in its texts and in a member that is passed over. -/
def marked : List Char :=
  "\x7b\"more\": [\"],\", [1]],\t\"uri\": \"[,\",\"diagnostics\" :[]\x7d".toList

end Published

end Sidecheck
