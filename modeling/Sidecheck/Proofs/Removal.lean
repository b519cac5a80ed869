import Sidecheck.Proofs.Below
import Sidecheck.Proofs.LastWord
import Sidecheck.Watch.Matcher
/-!
# What a removed directory takes with it

The removal of a directory clears what is stored below it, if the matcher lets it through. By then
nothing of the directory can be looked up, so its name has to do: a path with an extension is taken
for a file, which is watched itself or not at all. `Matcher.LetsGo` says which directories pass, and
`removal_clears_iff` that these are the ones whose files are cleared. Both are about directories that
no exclude matches.
-/

namespace Sidecheck

namespace Matcher

variable {m : Matcher} {disk : Disk} {path file : String}

/-- No exclude matches the path. The root is never excluded. -/
def Includes (m : Matcher) (path : String) : Prop :=
  Path.same path m.root = true ∨ m.excluded.any (·.isMatch (relative m.root path)) = false

/-- The removal of a path that no exclude matches passes: it is the root, or is watched itself, or
has no extension. -/
def LetsGo (m : Matcher) (path : String) : Prop :=
  Path.same path m.root = true ∨ m.watched.any (·.isMatch (relative m.root path)) = true ∨
    Path.hasExtension path = false

/-- What lies in a skipped directory is not watched, and neither is what lies below it. -/
theorem not_skipped_of_isUnder (hunder : Store.isUnder path (some file) = true)
    (hwatched : m.isIgnored disk file (some false) = false) :
    (Path.parts path).contains (.name skipped) = false := by
  have hfile : (Path.parts file).contains (.name skipped) = false := by
    unfold isIgnored at hwatched
    split at hwatched
    · cases hwatched
    · rename_i h
      simpa using h
  have hbeginning := Path.isPrefix_parts_of_isUnder hunder
  simp only [List.contains_eq_mem, decide_eq_false_iff_not] at hfile ⊢
  exact fun hmem => hfile (hbeginning.subset hmem)

theorem unlinkMatters_iff (h : (Path.parts path).contains (.name skipped) = false)
    (hincludes : m.Includes path) : m.unlinkMatters disk path = true ↔ m.LetsGo path := by
  unfold unlinkMatters isIgnored LetsGo
  rw [h]
  dsimp only
  rcases hincludes with hroot | hincludes
  · simp [hroot]
  · rw [hincludes]
    cases Path.same path m.root with
    | true => simp
    | false =>
      cases m.watched.any (·.isMatch (relative m.root path)) with
      | true => simp
      | false => cases Path.hasExtension path <;> simp

theorem relevant_unlink (m : Matcher) (disk : Disk) (path : String) :
    m.relevant disk (.unlink path) = if m.unlinkMatters disk path then [.unlink path] else [] := rfl

end Matcher

/-! ## What is left of the store -/

/-- A removal that passes clears the path and all below it; one that does not changes nothing. -/
theorem Session.get_handleAll_removal {s : Session} (hs : s.phase = .watching) (m : Matcher)
    (disk : Disk) (runner : Runner) (path file : String) :
    (s.handleAll disk runner (m.relevant disk (.unlink path))).store.get file =
      if m.unlinkMatters disk path = true ∧ (path = file ∨ Store.isUnder path (some file) = true)
      then [] else s.store.get file := by
  rw [get_handleAll disk runner s _ file hs, m.relevant_unlink]
  cases hmatters : m.unlinkMatters disk path with
  | false => simp [lastWord?, heeding]
  | true =>
    rw [if_pos rfl, lastWord?_singleton, FileEvent.word?]
    by_cases hbelow : path = file ∨ Store.isUnder path (some file) = true
    · simp [hbelow, heeding]
    · simp [hbelow, heeding]

/-! ## Main theorem -/

/-- A removed directory of watched files that no exclude matches takes them with it, in every
session that watches, exactly if its removal passes. If it does not, nothing is handled. -/
theorem removal_clears_iff (m : Matcher) (disk : Disk) {dir file : String}
    (hunder : Store.isUnder dir (some file) = true)
    (hwatched : m.isIgnored disk file (some false) = false) (hincludes : m.Includes dir) :
    ((∀ (s : Session) (runner : Runner), s.phase = .watching → ∀ other,
      Store.isUnder dir (some other) = true → m.isIgnored disk other (some false) = false →
        (s.handleAll disk runner (m.relevant disk (.unlink dir))).store.get other = []) ↔
      m.LetsGo dir) ∧
    (¬ m.LetsGo dir → m.relevant disk (.unlink dir) = []) := by
  have hmatters : m.unlinkMatters disk dir = true ↔ m.LetsGo dir :=
    Matcher.unlinkMatters_iff (Matcher.not_skipped_of_isUnder hunder hwatched) hincludes
  rw [← hmatters]
  refine ⟨⟨?_, ?_⟩, ?_⟩
  · intro hclears
    -- A session that holds something for the file, which is what tells the words on it apart.
    obtain ⟨s, _, runner, hs, hinjective⟩ := Session.exists_heeding_injective file
    have hheld : s.store.get file ≠ [] := by
      intro hnone
      cases hinjective (show s.heeding _ runner file none = s.heeding _ runner file (some .gone)
        from hnone)
    have hcleared := hclears s runner hs file hunder hwatched
    rw [Session.get_handleAll_removal hs] at hcleared
    by_contra hmatters
    simp [hmatters, hheld] at hcleared
  · intro hmatters s runner hs other hother _
    rw [Session.get_handleAll_removal hs, if_pos ⟨hmatters, .inr hother⟩]
  · intro hmatters
    rw [m.relevant_unlink, if_neg hmatters]

/-- What a checker of a project's sources watches. -/
def sources (excludes : List String) : Matcher :=
  (Matcher.make .empty "/p" ["src/**/*.ts"] excludes).toOption.getD ⟨"/p", [], []⟩

theorem make_sources {excludes : List String}
    (h : (Matcher.make .empty "/p" ["src/**/*.ts"] excludes).isOk = true) :
    Matcher.make .empty "/p" ["src/**/*.ts"] excludes = .ok (sources excludes) := by
  unfold sources
  cases hmake : Matcher.make .empty "/p" ["src/**/*.ts"] excludes with
  | error => simp [hmake, Except.isOk, Except.toBool] at h
  | ok m => rfl

/-- The files of a directory with a plain name go with it. -/
theorem removal_clears_plain_name :
    Matcher.make .empty "/p" ["src/**/*.ts"] [] = .ok (sources []) ∧
      Store.isUnder "/p/src/old" (some "/p/src/old/a.ts") = true ∧
      (sources []).isIgnored .empty "/p/src/old/a.ts" (some false) = false ∧
      (sources []).Includes "/p/src/old" ∧
      ∀ (s : Session) (runner : Runner), s.phase = .watching →
        (s.handleAll .empty runner
          ((sources []).relevant .empty (.unlink "/p/src/old"))).store.get
            "/p/src/old/a.ts" = [] := by
  have hunder : Store.isUnder "/p/src/old" (some "/p/src/old/a.ts") = true := by decide +kernel
  have hwatched : (sources []).isIgnored .empty "/p/src/old/a.ts" (some false) = false := by
    decide +kernel
  have hincludes : (sources []).Includes "/p/src/old" := .inr (by decide +kernel)
  have hpasses : (sources []).LetsGo "/p/src/old" := .inr (.inr (by decide +kernel))
  have hclears := (removal_clears_iff (sources []) .empty hunder hwatched hincludes).1.2 hpasses
  exact ⟨make_sources (by decide +kernel), hunder, hwatched, hincludes,
    fun s runner hs => hclears s runner hs _ hunder hwatched⟩

/-- A directory with a dot in its name is taken for a file that is not watched. What is stored below
it stays. -/
theorem dotted_directory_leaves_files :
    let held : Diagnostic :=
      { checker := .esLint, message := "m", file := some "/p/src/v1.2/a.ts" }
    let stored : Session :=
      { root := "/p", reporter := { checker := .esLint }, store := .ofList [held]
        phase := .watching }
    Matcher.make .empty "/p" ["src/**/*.ts"] [] = .ok (sources []) ∧
      Store.isUnder "/p/src/v1.2" (some "/p/src/v1.2/a.ts") = true ∧
      (sources []).isIgnored .empty "/p/src/v1.2/a.ts" (some false) = false ∧
      ∀ runner, (stored.handleAll .empty runner
        ((sources []).relevant .empty (.unlink "/p/src/v1.2"))).store.get
          "/p/src/v1.2/a.ts" = [held] := by
  have hdotted : (sources []).unlinkMatters .empty "/p/src/v1.2" = false := by decide +kernel
  intro held stored
  refine ⟨make_sources (by decide +kernel), by decide +kernel, by decide +kernel, fun runner => ?_⟩
  rw [Session.get_handleAll_removal rfl, hdotted, if_neg (by simp)]
  rfl

end Sidecheck
