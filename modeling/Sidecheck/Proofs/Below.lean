import Sidecheck.Path
import Sidecheck.Proofs.Trimming
import Sidecheck.Store
/-!
# What lies below a directory

The store goes by texts: a file is below a directory if its name begins with the directory's and
a slash. A path is really its list of parts, and there the directory's parts come first:
`isPrefix_parts_of_isUnder`.
-/

namespace Sidecheck

namespace Path

/-- The parts of a path that is cut at its slashes. -/
theorem parts_eq_of_splitOn {path : String} {first : List Char} {more : List (List Char)}
    (h : path.toList.splitOn '/' = first :: more) :
    parts path =
      if first = [] then (if more = [] then [] else .root :: more.filterMap partOf?)
      else (if first = ['.'] then [.here] else []) ++ (first :: more).filterMap partOf? := by
  unfold parts
  rw [h]
  cases first with
  | nil => cases more <;> simp
  | cons c cs => simp

/-- Empty segments say nothing. -/
theorem filterMap_partOf?_eq_nil {segments : List (List Char)} (h : ∀ s ∈ segments, s = []) :
    segments.filterMap partOf? = [] := by
  rw [List.filterMap_eq_nil_iff]
  intro s hs
  simp [partOf?, h s hs]

/-- Slashes at the end of a path only add empty segments. -/
theorem exists_splitOn_append (xs : List Char) {tail : List Char} (h : ∀ c ∈ tail, c = '/') :
    ∃ blanks, (xs ++ tail).splitOn '/' = xs.splitOn '/' ++ blanks ∧ ∀ s ∈ blanks, s = [] := by
  cases tail with
  | nil => exact ⟨[], by simp, by simp⟩
  | cons c tail =>
    have hc : c = '/' := h c List.mem_cons_self
    subst hc
    refine ⟨tail.splitOn '/', List.splitOn_append_cons_self xs tail, ?_⟩
    have htail : ∀ c ∈ tail, c = '/' := fun c hc => h c (List.mem_cons_of_mem _ hc)
    clear h
    induction tail with
    | nil => simp
    | cons c tail ih =>
      have hc : c = '/' := htail c List.mem_cons_self
      subst hc
      rw [List.splitOn_cons_eq_if_modifyHead]
      simpa using ih fun c hc => htail c (List.mem_cons_of_mem _ hc)

/-- A file below a directory has the directory's parts first. -/
theorem isPrefix_parts_of_isUnder {dir file : String} (h : Store.isUnder dir (some file) = true) :
    parts dir <+: parts file := by
  obtain ⟨rest, hrest⟩ : Store.directoryStart dir <+: file.toList := by
    simpa [Store.isUnder, List.isPrefixOf_iff_prefix] using h
  obtain ⟨tail, hdir, htail⟩ :=
    Text.exists_eq_dropWhileEnd_append (fun c : Char => decide (c = '/')) dir.toList
  obtain ⟨blanks, hcut, hblanks⟩ :=
    exists_splitOn_append (Text.dropWhileEnd (· = '/') dir.toList)
      (fun c hc => by simpa using htail c hc)
  rw [← hdir] at hcut
  have hfile : file.toList.splitOn '/' =
      (Text.dropWhileEnd (· = '/') dir.toList).splitOn '/' ++ rest.splitOn '/' := by
    rw [← hrest, Store.directoryStart, List.append_assoc]
    exact List.splitOn_append_cons_self _ rest
  obtain ⟨first, more, hfirst⟩ := List.exists_cons_of_ne_nil
    (List.splitOn_ne_nil '/' (Text.dropWhileEnd (· = '/') dir.toList))
  rw [hfirst, List.cons_append] at hcut hfile
  rw [parts_eq_of_splitOn hcut, parts_eq_of_splitOn hfile]
  have hquiet := filterMap_partOf?_eq_nil hblanks
  by_cases hempty : first = []
  · -- An absolute path, or a directory that is nothing but slashes.
    have hmore : more ++ rest.splitOn '/' ≠ [] := by simp
    rw [if_pos hempty, if_pos hempty, if_neg hmore]
    split
    · exact List.nil_prefix
    · rw [List.filterMap_append, List.filterMap_append, hquiet, List.append_nil]
      exact ⟨_, rfl⟩
  · rw [if_neg hempty, if_neg hempty, ← List.cons_append, ← List.cons_append,
      List.filterMap_append, List.filterMap_append, hquiet, List.append_nil, ← List.append_assoc]
    exact ⟨_, rfl⟩

end Path

end Sidecheck
