import Sidecheck.Proofs.Removal
import Sidecheck.Proofs.Walking
/-!
# Directories that appear

A directory that appears stands for the files that a walk from it comes to, each of which could
have appeared by itself: `Matcher.Expands`. Skipped directories on the way change nothing, since no
file in them is watched. But before the walk the directory itself is looked at, and if an exclude
names it, then all its files are left out, even those that are watched: `expands_iff`,
`directory_hides_file`.
-/

namespace Sidecheck

namespace Matcher

variable {m : Matcher} {disk : Disk} {dir file path : String}

/-- An exclude names the path. The root is never left out. -/
def LeavesOut (m : Matcher) (path : String) : Prop :=
  Path.same path m.root = false ∧ m.excluded.any (·.isMatch (relative m.root path)) = true

instance : Decidable (m.LeavesOut path) := inferInstanceAs (Decidable (_ ∧ _))

/-- The events of a directory that appears are, once each, those that its files would bring by
appearing one by one. -/
def Expands (m : Matcher) (disk : Disk) (dir : String) : Prop :=
  (m.relevant disk (.change dir)).Nodup ∧
    ∀ event, event ∈ m.relevant disk (.change dir) ↔
      ∃ file, disk.Reaches dir file ∧ m.relevant disk (.change file) ≠ [] ∧ event = .change file

theorem isName_skipped : Path.IsName skipped := by decide

theorem isIgnored_of_skipped {isDirectory? : Option Bool} (h : .name skipped ∈ Path.parts path) :
    m.isIgnored disk path isDirectory? = true := by
  rw [isIgnored, if_pos (by simpa using h)]

/-- A directory is ignored if it is skipped or left out. -/
theorem isIgnored_directory :
    m.isIgnored disk path (some true) = true ↔
      .name skipped ∈ Path.parts path ∨ m.LeavesOut path := by
  by_cases hskipped : .name skipped ∈ Path.parts path
  · exact iff_of_true (isIgnored_of_skipped hskipped) (.inl hskipped)
  · rw [isIgnored, if_neg (by simpa using hskipped), or_iff_right hskipped, LeavesOut]
    cases Path.same path m.root with
    | true => simp
    | false => simp

/-- A file that appears brings something if it is not ignored. -/
theorem relevant_file_ne_nil_iff (hroot : disk.root.IsProper) (h : disk.Reaches dir file) :
    m.relevant disk (.change file) ≠ [] ↔ m.isIgnored disk file (some false) = false := by
  rw [relevant, h.isDirectory hroot]
  cases m.isIgnored disk file (some false) <;> simp

/-- A directory brings nothing if it is left out, and else the changes of its watched files. -/
theorem mem_relevant_iff (hroot : disk.root.IsProper) (hdir : disk.isDirectory dir = true)
    (event : FileEvent) :
    event ∈ m.relevant disk (.change dir) ↔ ¬ m.LeavesOut dir ∧
      ∃ file, disk.Reaches dir file ∧ m.relevant disk (.change file) ≠ [] ∧
        event = .change file := by
  rw [relevant, if_pos hdir]
  split
  · rename_i hignored
    refine iff_of_false List.not_mem_nil ?_
    rintro ⟨hkept, file, hreaches, hbrings, -⟩
    -- What lies below a skipped directory is ignored as well.
    have hskipped := (isIgnored_directory.1 hignored).resolve_right hkept
    have hbelow := (hreaches.isPrefix_parts hroot).subset hskipped
    have hwatched := (relevant_file_ne_nil_iff hroot hreaches).1 hbrings
    rw [isIgnored_of_skipped hbelow] at hwatched
    cases hwatched
  · rename_i hlooked
    rw [isIgnored_directory, not_or] at hlooked
    obtain ⟨hskipped, hkept⟩ := hlooked
    have hlisted {file : String} := @Disk.mem_filesBelow_iff disk dir file skipped hroot
      isName_skipped hskipped
    rw [List.mem_map]
    constructor
    · rintro ⟨file, hfile, rfl⟩
      obtain ⟨hbelow, hwatched⟩ := List.mem_filter.1 hfile
      have hreaches := (hlisted.1 hbelow).1
      exact ⟨hkept, file, hreaches,
        (relevant_file_ne_nil_iff hroot hreaches).2 (by simpa using hwatched), rfl⟩
    · rintro ⟨-, file, hreaches, hbrings, rfl⟩
      have hwatched := (relevant_file_ne_nil_iff hroot hreaches).1 hbrings
      have hplain : .name skipped ∉ Path.parts file := by
        intro hin
        rw [isIgnored_of_skipped hin] at hwatched
        cases hwatched
      exact ⟨file, List.mem_filter.2 ⟨hlisted.2 ⟨hreaches, hplain⟩, by simpa using hwatched⟩, rfl⟩

theorem nodup_relevant (hroot : disk.root.IsProper) (hdir : disk.isDirectory dir = true) :
    (m.relevant disk (.change dir)).Nodup := by
  rw [relevant, if_pos hdir]
  split
  · exact List.nodup_nil
  · exact ((Disk.nodup_filesBelow hroot skipped dir).filter _).map fun _ _ => FileEvent.change.inj

end Matcher

/-! ## Main theorem -/

/-- A directory that appears is treated like its files appearing one by one, unless an exclude names
the directory but not all files that are watched below it. Such a directory brings no events. -/
theorem expands_iff (m : Matcher) {disk : Disk} {dir : String} (hroot : disk.root.IsProper)
    (hdir : disk.isDirectory dir = true) :
    (m.Expands disk dir ↔
      (m.LeavesOut dir → ∀ file, disk.Reaches dir file → m.relevant disk (.change file) = [])) ∧
    (m.LeavesOut dir → m.relevant disk (.change dir) = []) := by
  refine ⟨⟨?_, ?_⟩, ?_⟩
  · rintro ⟨-, hevents⟩ hleft file hreaches
    by_contra hbrings
    have hevent := (hevents (.change file)).2 ⟨file, hreaches, hbrings, rfl⟩
    exact ((Matcher.mem_relevant_iff hroot hdir _).1 hevent).1 hleft
  · intro hquiet
    refine ⟨Matcher.nodup_relevant hroot hdir, fun event => ?_⟩
    rw [Matcher.mem_relevant_iff hroot hdir, and_iff_right_of_imp]
    rintro ⟨file, hreaches, hbrings, -⟩ hleft
    exact hbrings (hquiet hleft file hreaches)
  · intro hleft
    rw [Matcher.relevant, if_pos hdir, if_pos (Matcher.isIgnored_directory.2 (.inr hleft))]

/-- A directory with files, a link to one of them and a file whose name is no text. -/
def generatedDirectory : Entry := .directory [
  ("a.ts", .file .empty false), ("a.md", .file .empty false),
  ("b.ts", .link ["p", "src", "gen", "a.ts"]),
  (.bytes [0xff, 0x2e, 0x74, 0x73] (by decide +kernel), .file .empty false),
  ("node_modules", .directory [("c.ts", .file .empty false)])]

/-- A disk on which the directory has appeared among a project's sources. -/
def generated : Disk :=
  ⟨.directory [("p", .directory [("src", .directory [("gen", generatedDirectory)])])], []⟩

theorem isProper_generated : generated.root.IsProper := by
  refine .directory (by decide) (by decide) (List.forall_mem_singleton.2 ?_)
  refine .directory (by decide) (by decide) (List.forall_mem_singleton.2 ?_)
  refine .directory (by decide) (by decide) (List.forall_mem_singleton.2 ?_)
  refine .directory (by decide) (by decide) ?_
  have htexts : ∀ entry ∈ [("a.ts", Entry.file .empty false), ("a.md", .file .empty false),
      ("b.ts", .link ["p", "src", "gen", "a.ts"]),
      ("node_modules", .directory [("c.ts", .file .empty false)])], entry.2.IsProper := by
    simp only [List.forall_mem_cons, List.not_mem_nil, false_imp_iff, implies_true, and_true]
    refine ⟨.file, .file, .link, .directory (by decide) (by decide) ?_⟩
    exact List.forall_mem_singleton.2 .file
  exact htexts

theorem entry_generated : generated.entry "/p/src/gen" = .ok generatedDirectory := rfl

theorem reaches_generated : generated.Reaches "/p/src/gen" "/p/src/gen/a.ts" :=
  ⟨_, entry_generated, .enter (by decide +kernel) List.mem_cons_self .here⟩

/-- No walk goes through the link. -/
theorem not_reaches_generated : ¬ generated.Reaches "/p/src/gen" "/p/src/gen/b.ts" := by
  rintro ⟨e, hentry, hreaches⟩
  have hproper := Disk.isProper_of_entry isProper_generated hentry
  obtain rfl : generatedDirectory = e := Except.ok.inj (entry_generated.symm.trans hentry)
  have hskipped : .name Matcher.skipped ∉ Path.parts "/p/src/gen" := by decide +kernel
  have hlisted := (Entry.mem_files_iff hproper hskipped).2 ⟨hreaches, by decide +kernel⟩
  exact absurd hlisted (by decide +kernel)

/-- Without excludes the directory brings its watched files. It does not bring the link, which is
watched by itself. -/
theorem expands_generated :
    generated.root.IsProper ∧ generated.isDirectory "/p/src/gen" = true ∧
      ¬ (sources []).LeavesOut "/p/src/gen" ∧ (sources []).Expands generated "/p/src/gen" ∧
      .change "/p/src/gen/a.ts" ∈ (sources []).relevant generated (.change "/p/src/gen") ∧
      .change "/p/src/gen/b.ts" ∉ (sources []).relevant generated (.change "/p/src/gen") ∧
      (sources []).relevant generated (.change "/p/src/gen/b.ts") =
        [.change "/p/src/gen/b.ts"] := by
  have hdir : generated.isDirectory "/p/src/gen" = true := by decide +kernel
  have hkept : ¬ (sources []).LeavesOut "/p/src/gen" := by decide +kernel
  have hexpands : (sources []).Expands generated "/p/src/gen" :=
    (expands_iff (sources []) isProper_generated hdir).1.2 fun hleft => absurd hleft hkept
  have hbrings : (sources []).relevant generated (.change "/p/src/gen/a.ts") ≠ [] := by
    decide +kernel
  refine ⟨isProper_generated, hdir, hkept, hexpands,
    (hexpands.2 _).2 ⟨_, reaches_generated, hbrings, rfl⟩, fun hin => ?_, by decide +kernel⟩
  obtain ⟨file, hreaches, -, hfile⟩ := (hexpands.2 _).1 hin
  obtain rfl := FileEvent.change.inj hfile
  exact not_reaches_generated hreaches

/-- An exclude that names what stands directly among the sources does not name the files that stand
deeper. They are watched one by one, and still the directory brings nothing. -/
theorem directory_hides_file :
    let m := sources ["src/*"]
    Matcher.make .empty "/p" ["src/**/*.ts"] ["src/*"] = .ok m ∧
      generated.isDirectory "/p/src/gen" = true ∧
      generated.Reaches "/p/src/gen" "/p/src/gen/a.ts" ∧
      m.relevant generated (.change "/p/src/gen/a.ts") = [.change "/p/src/gen/a.ts"] ∧
      m.relevant generated (.change "/p/src/gen") = [] ∧
      ¬ m.Expands generated "/p/src/gen" := by
  intro m
  have hfile : m.relevant generated (.change "/p/src/gen/a.ts") = [.change "/p/src/gen/a.ts"] := by
    decide +kernel
  have hdir : m.relevant generated (.change "/p/src/gen") = [] := by decide +kernel
  have hbrings : m.relevant generated (.change "/p/src/gen/a.ts") ≠ [] := by
    rw [hfile]
    exact List.cons_ne_nil _ _
  refine ⟨make_sources (by decide +kernel), by decide +kernel, reaches_generated, hfile, hdir, ?_⟩
  rintro ⟨-, hevents⟩
  have hevent := (hevents (.change "/p/src/gen/a.ts")).2 ⟨_, reaches_generated, hbrings, rfl⟩
  rw [hdir] at hevent
  cases hevent

end Sidecheck
