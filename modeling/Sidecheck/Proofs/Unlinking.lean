import Sidecheck.Proofs.Reporting
import Sidecheck.Proofs.Segments
/-!
# What is unlinked

A path that is gone takes its own entry with it and those of all files below it. The store goes by
texts here, and for normal paths these say the same as the parts (`Path.contains_iff`): a name that
merely begins with the path's goes on without a slash. So what is left of the store is what the path
does not contain, each entry as it was and in its place: `Session.unlink_removes`.
-/

namespace Sidecheck

namespace Path

variable {path dir file : String}

/-- The path leads from the root through names, with nothing but single slashes between them. -/
def IsNormal (path : String) : Prop :=
  ∃ names, path = Disk.pathOfNames names ∧ ∀ name ∈ names, IsName name

/-- The segments of a normal path other than the root: an empty one, then the names. -/
theorem toList_pathOfNames {names : List String} (h : names ≠ []) :
    (Disk.pathOfNames names).toList = ['/'].intercalate ([] :: names.map String.toList) := by
  rw [Disk.pathOfNames, String.toList_append, String.toList_intercalate,
    List.intercalate_cons_of_ne_nil (by simpa using h)]
  rfl

theorem slash_not_mem_segments {names : List String} (h : ∀ name ∈ names, IsName name) :
    ∀ segment ∈ [] :: names.map String.toList, '/' ∉ segment := by
  rw [List.forall_mem_cons, List.forall_mem_map]
  exact ⟨List.not_mem_nil, fun name hname => (h name hname).1⟩

theorem parts_pathOfNames {names : List String} (h : ∀ name ∈ names, IsName name) :
    parts (Disk.pathOfNames names) = .root :: names.map .name := by
  by_cases hnames : names = []
  · subst hnames
    rfl
  · have hcut := List.splitOn_intercalate '/' (slash_not_mem_segments h) (List.cons_ne_nil _ _)
    have hparts : (names.map String.toList).filterMap partOf? = names.map .name := by
      rw [List.filterMap_map, ← List.filterMap_eq_map]
      exact List.filterMap_congr fun name hname => (h name hname).partOf?_eq
    rw [← toList_pathOfNames hnames] at hcut
    rw [parts_eq_of_splitOn hcut, if_pos rfl, if_neg (by simpa using hnames), hparts]

theorem steps_pathOfNames {names : List String} (h : ∀ name ∈ names, IsName name) :
    steps (Disk.pathOfNames names) = .root :: names.map .name := by
  rw [steps, parts_pathOfNames h]
  refine List.filter_eq_self.2 fun part hpart => ?_
  rcases List.mem_cons.1 hpart with rfl | hpart
  · rfl
  · obtain ⟨name, -, rfl⟩ := List.mem_map.1 hpart
    rfl

/-- A normal path other than the root has no slash at its end. -/
theorem directoryStart_pathOfNames {names : List String} (hnames : names ≠ [])
    (h : ∀ name ∈ names, IsName name) :
    Store.directoryStart (Disk.pathOfNames names) = (Disk.pathOfNames names).toList ++ ['/'] := by
  have hcut := List.splitOn_intercalate '/' (slash_not_mem_segments h) (List.cons_ne_nil _ _)
  rw [← toList_pathOfNames hnames] at hcut
  obtain hempty | ⟨init, c, hlast⟩ := List.eq_nil_or_concat' (Disk.pathOfNames names).toList
  · rw [Store.directoryStart, hempty]
    rfl
  · have hc : c ≠ '/' := by
      rintro rfl
      rw [hlast, List.splitOn_append_cons_self, List.splitOn_nil] at hcut
      have hend : ([] :: names.map String.toList).getLast? = some [] := by simp [← hcut]
      rw [List.getLast?_cons_of_ne_nil (by simpa using hnames)] at hend
      obtain ⟨name, hname, hnil⟩ := List.mem_map.1 (List.mem_of_getLast? hend)
      exact (h name hname).2.1 hnil
    rw [Store.directoryStart, hlast, Text.dropWhileEnd_append_of_neg (by simpa using hc)]

theorem IsNormal.isUnder_iff (h : IsNormal dir) (hroot : dir ≠ "/") :
    Store.isUnder dir (some file) = true ↔ dir.toList ++ ['/'] <+: file.toList := by
  obtain ⟨names, rfl, hnames⟩ := h
  have hne : names ≠ [] := by
    rintro rfl
    exact hroot rfl
  rw [← directoryStart_pathOfNames hne hnames, Store.isUnder, Option.any_some,
    List.isPrefixOf_iff_prefix]

/-- A normal path contains itself and what is stored below it. -/
theorem contains_iff (hdir : IsNormal dir) (hroot : dir ≠ "/") (hfile : IsNormal file) :
    Contains dir file ↔ file = dir ∨ Store.isUnder dir (some file) = true := by
  rw [hdir.isUnder_iff hroot]
  obtain ⟨names, rfl, hnames⟩ := hdir
  obtain ⟨others, rfl, hothers⟩ := hfile
  have hne : names ≠ [] := by
    rintro rfl
    exact hroot rfl
  have hcontains : Contains (Disk.pathOfNames names) (Disk.pathOfNames others) ↔
      [] :: names.map String.toList <+: [] :: others.map String.toList := by
    rw [Contains, steps_pathOfNames hnames, steps_pathOfNames hothers, List.cons_prefix_cons,
      List.cons_prefix_cons, List.prefix_map_iff_of_injective fun _ _ => Part.name.inj,
      List.prefix_map_iff_of_injective fun _ _ => String.toList_injective]
    simp
  rw [hcontains, ← String.toList_inj]
  by_cases hothersNe : others = []
  · -- The root lies below no other path.
    subst hothersNe
    refine iff_of_false ?_ ?_
    · simpa using hne
    · rintro (heq | hbelow)
      · exact hroot (String.toList_inj.1 heq).symm
      · have hlength := hbelow.length_le
        simp [Disk.pathOfNames] at hlength
  · rw [toList_pathOfNames hne, toList_pathOfNames hothersNe]
    exact prefix_iff_intercalate (List.cons_ne_nil _ _) (List.cons_ne_nil _ _)
      (slash_not_mem_segments hnames) (slash_not_mem_segments hothers)

end Path

namespace Session

variable {s : Session} {path : String}

theorem entries_unlink (s : Session) (disk : Disk) (runner : Runner) (path : String) :
    (s.storeAfter disk runner (.unlink path)).entries =
      s.store.entries.filter fun entry =>
        entry.1 ≠ some path && !Store.isUnder path entry.1 := by
  simp only [storeAfter, Store.removeUnder, Store.update, List.isEmpty_nil, if_true,
    List.filter_filter]
  exact List.filter_congr fun entry _ => Bool.and_comm _ _

/-! ## Main theorem -/

/-- What is unlinked goes with everything below it, and nothing else goes: not the files whose names
merely begin with the path, and not what is stored without a file. Nothing is checked, and the same
once more changes nothing. -/
theorem unlink_removes (hs : s.phase = .watching) (disk : Disk) (runner : Runner)
    (hpath : Path.IsNormal path) (hroot : path ≠ "/")
    (hstored : ∀ entry ∈ s.store.entries, ∀ file ∈ entry.1, Path.IsNormal file) :
    let step := s.handle disk runner (.unlink path)
    step.session.store.entries =
        (s.store.entries.filter fun entry => entry.1.all fun file => ¬ Path.Contains path file) ∧
      (∀ entry ∈ s.store.entries, ∀ suffix, entry.1 = some (path ++ suffix) → suffix ≠ "" →
        Path.isAbsolute suffix = false → entry ∈ step.session.store.entries) ∧
      (∀ entry ∈ s.store.entries, entry.1 = none → entry ∈ step.session.store.entries) ∧
      step.runs = [] ∧
      ∀ (disk' : Disk) (runner' : Runner),
        (step.session.handle disk' runner' (.unlink path)).session = step.session := by
  intro step
  have hstep : step = _ := handle_of_watching hs disk runner (.unlink path)
  have hentries : step.session.store.entries =
      s.store.entries.filter fun entry =>
        entry.1.all fun file => ¬ Path.Contains path file := by
    rw [hstep, entries_unlink]
    refine List.filter_congr fun entry hentry => ?_
    cases hkey : entry.1 with
    | none => rfl
    | some file =>
      have hcontains := Path.contains_iff hpath hroot (hstored entry hentry file hkey)
      simp [hcontains]
  refine ⟨hentries, ?_, ?_, by rw [hstep]; rfl, ?_⟩
  · intro entry hentry suffix hkey hne hrelative
    have hnot : ¬ Path.Contains path (path ++ suffix) := by
      rw [Path.contains_iff hpath hroot (hstored entry hentry _ hkey),
        hpath.isUnder_iff hroot, String.toList_append, List.prefix_append_right_inj]
      rintro (heq | ⟨rest, hrest⟩)
      · exact hne (String.append_eq_left_iff.1 heq)
      · simp [Path.isAbsolute, ← hrest] at hrelative
    rw [hentries, List.mem_filter, hkey]
    exact ⟨hentry, by simpa using hnot⟩
  · intro entry hentry hkey
    rw [hentries, List.mem_filter, hkey]
    exact ⟨hentry, rfl⟩
  · intro disk' runner'
    have hagain : (step.session.storeAfter disk' runner' (.unlink path)).entries =
        step.session.store.entries := by
      rw [entries_unlink, hstep, entries_unlink, List.filter_filter]
      simp only [Bool.and_self]
    have hstore : step.session.storeAfter disk' runner' (.unlink path) = step.session.store :=
      congrArg Store.mk hagain
    rw [handle_of_watching (by rw [hstep]), hstore, hstep]

/-- A directory goes, while a file and a directory stay whose names begin with its own. -/
theorem unlink_removes_directory :
    let held (file : Option String) : Diagnostic := { checker := .esLint, message := "m", file }
    let s : Session := {
      root := "/p"
      reporter := { checker := .esLint }
      store := .ofList [held "/p/a/b", held none, held "/p/a.ts", held "/p/a", held "/p/ab/c"]
      phase := .watching }
    ∀ runner : Runner,
      let step := s.handle .empty runner (.unlink "/p/a")
      step.session.store.entries.map (·.1) = [none, some "/p/a.ts", some "/p/ab/c"] ∧
        step.runs = [] ∧
        (step.session.handle .empty runner (.unlink "/p/a")).session = step.session := by
  intro held s runner step
  have hpath : Path.IsNormal "/p/a" := ⟨["p", "a"], by decide +kernel, by decide⟩
  have hkeys : s.store.entries.map (·.1) =
      [some "/p/a/b", none, some "/p/a.ts", some "/p/a", some "/p/ab/c"] := by decide +kernel
  have hstored : ∀ entry ∈ s.store.entries, ∀ file ∈ entry.1, Path.IsNormal file := by
    intro entry hentry file hfile
    have hkey := List.mem_map_of_mem (f := (·.1)) hentry
    rw [hkeys, Option.mem_def.1 hfile] at hkey
    simp only [List.mem_cons, List.not_mem_nil, Option.some_inj, reduceCtorEq, or_false,
      false_or] at hkey
    rcases hkey with rfl | rfl | rfl | rfl
    · exact ⟨["p", "a", "b"], by decide +kernel, by decide⟩
    · exact ⟨["p", "a.ts"], by decide +kernel, by decide⟩
    · exact hpath
    · exact ⟨["p", "ab", "c"], by decide +kernel, by decide⟩
  obtain ⟨hentries, -, -, hruns, hagain⟩ :=
    unlink_removes (s := s) rfl .empty runner hpath (by decide) hstored
  refine ⟨?_, hruns, hagain .empty runner⟩
  rw [hentries]
  decide +kernel

end Session

end Sidecheck
