import Sidecheck.Proofs.Segments
/-!
# One path, many texts

Slashes and dots can be written into a path without making it another one. Such a text may be
impossible to follow, as with a slash behind the name of a file, but if it leads anywhere it leads
where the path's parts lead (`Disk.goTo_of_locate`), through the same links. So two texts of one path
that can both be read give the same text: `Disk.eq_of_readText`.
-/

namespace Sidecheck

namespace Path

/-- What the segments of a path say, read off its parts. -/
theorem filter_parts (path : String) :
    (parts path).filter (fun part => part ≠ .root ∧ part ≠ .here) =
      (path.toList.splitOn '/').filterMap partOf? := by
  obtain ⟨head, hparts, hhead⟩ := exists_head_parts path
  have hbeginning : head.toList.filter (fun part => part ≠ .root ∧ part ≠ .here) = [] := by
    obtain rfl | rfl | ⟨rfl, -⟩ := hhead <;> rfl
  rw [hparts, List.filter_append, hbeginning, List.nil_append,
    filter_filterMap_partOf? _ fun _ hroot hhere => decide_eq_true ⟨hroot, hhere⟩]

theorem root_mem_parts {path : String} : .root ∈ parts path ↔ isAbsolute path = true := by
  constructor
  · intro h
    obtain ⟨head, hparts, hhead⟩ := exists_head_parts path
    rw [hparts, List.mem_append, Option.mem_toList] at h
    have hmem := h.resolve_right (not_mem_filterMap_partOf? _ (.inl rfl))
    obtain rfl | rfl | ⟨-, habsolute⟩ := hhead
    · cases hmem
    · cases hmem
    · exact habsolute
  · intro h
    obtain ⟨rest, hrest⟩ := List.head?_eq_some_iff.1 (of_decide_eq_true h)
    have hcut : path.toList.splitOn '/' = [] :: rest.splitOn '/' := by
      simp [hrest, List.splitOn_cons_eq_if_modifyHead]
    rw [parts_eq_of_splitOn hcut, if_pos rfl, if_neg (List.splitOn_ne_nil _ _)]
    exact List.mem_cons_self

end Path

namespace Disk

variable {d : Disk} {start place : List String} {path a b : String}

/-- A segment that says nothing leads nowhere else. -/
theorem eq_of_follow_quiet {s : List Char} (hs : Path.partOf? s = none)
    (h : d.follow start [s] = .ok place) : place = start := by
  have hquiet : s = [] ∨ s = ['.'] := by
    unfold Path.partOf? at hs
    split_ifs at hs with hquiet
    exact hquiet
  rw [follow] at h
  split at h
  · cases h
  · cases h
  · cases h
  · rw [if_pos hquiet] at h
    exact (Except.ok.inj h).symm

/-- Segments that can be followed lead where the parts lead that they say. -/
theorem follow_says {segments : List (List Char)} (h : d.follow start segments = .ok place) :
    d.follow start ((segments.filterMap Path.partOf?).map (·.text.toList)) = .ok place := by
  induction segments generalizing start with
  | nil => exact h
  | cons s segments ih =>
    rw [← List.singleton_append, follow_append_eq_ok_iff] at h
    obtain ⟨next, hnext, hrest⟩ := h
    cases hpart : Path.partOf? s with
    | none =>
      obtain rfl := eq_of_follow_quiet hpart hnext
      rw [List.filterMap_cons_none hpart]
      exact ih hrest
    | some part =>
      rw [List.filterMap_cons_some hpart, List.map_cons, Path.text_of_partOf?_eq hpart,
        ← List.singleton_append, follow_append_eq_ok_iff]
      exact ⟨next, hnext, ih hrest⟩

/-- Where the parts of a path lead. -/
def goTo (d : Disk) (parts : List Path.Part) : Except Fault (List String) :=
  d.follow (if .root ∈ parts then [] else d.workingDirectory)
    ((parts.filter fun part => part ≠ .root ∧ part ≠ .here).map (·.text.toList))

theorem goTo_of_locate (h : d.locate path = .ok place) : d.goTo (Path.parts path) = .ok place := by
  obtain ⟨-, -, -, hfollow⟩ := locate_eq_ok_iff.1 h
  rw [goTo, Path.filter_parts]
  simp only [Path.root_mem_parts]
  exact follow_says hfollow

theorem eq_of_entry {e f : Entry} (hsame : Path.same a b = true) (ha : d.entry a = .ok e)
    (hb : d.entry b = .ok f) : e = f := by
  obtain ⟨hshort, hnul, hne, place, hplace, hat⟩ := entry_eq_ok_iff.1 ha
  obtain ⟨hshort', hnul', hne', place', hplace', hat'⟩ := entry_eq_ok_iff.1 hb
  have hgoTo := goTo_of_locate (locate_eq_ok_iff.2 ⟨hshort, hnul, hne, hplace⟩)
  have hgoTo' := goTo_of_locate (locate_eq_ok_iff.2 ⟨hshort', hnul', hne', hplace'⟩)
  have hparts : Path.parts a = Path.parts b := of_decide_eq_true hsame
  rw [hparts, hgoTo'] at hgoTo
  obtain rfl := Except.ok.inj hgoTo
  exact Option.some.inj (hat.symm.trans hat')

theorem eq_of_readText {s t : String} (hsame : Path.same a b = true) (ha : d.readText a = .ok s)
    (hb : d.readText b = .ok t) : s = t := by
  rw [readText] at ha hb
  cases hentry : d.entry a with
  | error fault => rw [hentry] at ha; cases ha
  | ok e =>
    cases hentry' : d.entry b with
    | error fault => rw [hentry'] at hb; cases hb
    | ok f =>
      rw [hentry] at ha
      rw [hentry', ← eq_of_entry hsame hentry hentry'] at hb
      exact Except.ok.inj (ha.symm.trans hb)

end Disk

end Sidecheck
