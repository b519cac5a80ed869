import Sidecheck.Proofs.Appearing
import Sidecheck.Proofs.Globbing
import Sidecheck.Proofs.Segments
/-!
# Watched directories

A pattern without wildcards that names a directory watches that directory and all that lies below it.
As seen from the root, the directory is written as its names with single slashes between them, and a
path below the root as its steps behind the root. So the two globs of the pattern match a path
exactly if the directory contains it (`Matcher.any_isMatch_iff`), however the pattern is spelled:
`Matcher.watches_subtrees`.
-/

namespace Sidecheck

namespace Path

variable {names : List String} {way : List Part}

/-- The text of a way with single slashes between its parts. -/
def textOf (way : List Part) : List Char := ['/'].intercalate (way.map (·.text.toList))

/-- A part is the name that its text is. -/
theorem IsName.eq_of_text {part : Part} {name : String} (h : IsName name)
    (htext : part.text = name) : part = .name name := by
  subst htext
  cases part with
  | name => rfl
  | _ => exact absurd h (by decide)

theorem map_name_prefix_iff (h : ∀ name ∈ names, IsName name) :
    names.map .name <+: way ↔ names.map String.toList <+: way.map (·.text.toList) := by
  induction names generalizing way with
  | nil => simp
  | cons name names ih =>
    rw [List.forall_mem_cons] at h
    cases way with
    | nil => simp
    | cons part way =>
      simp only [List.map_cons, List.cons_prefix_cons, ih h.2, String.toList_inj]
      refine and_congr_left fun _ => ⟨?_, fun htext => (h.1.eq_of_text htext.symm).symm⟩
      rintro rfl
      rfl

theorem exists_textOf_eq (part : Part) (way : List Part) :
    ∃ rest, textOf (part :: way) = part.text.toList ++ rest := by
  cases way with
  | nil => exact ⟨[], by simp [textOf]⟩
  | cons next way =>
    exact ⟨['/'] ++ textOf (next :: way), by simp [textOf, List.intercalate_cons_cons]⟩

/-- The text of names does not begin with a slash. -/
theorem exists_textOf_map_name_eq (hnames : names ≠ []) (h : ∀ name ∈ names, IsName name) :
    ∃ c rest, textOf (names.map .name) = c :: rest ∧ c ≠ '/' := by
  obtain ⟨name, names, rfl⟩ := List.exists_cons_of_ne_nil hnames
  obtain ⟨hslash, hempty, -, -⟩ := h name List.mem_cons_self
  obtain ⟨c, cs, hname⟩ := List.exists_cons_of_ne_nil hempty
  obtain ⟨rest, hrest⟩ := exists_textOf_eq (.name name) (names.map .name)
  refine ⟨c, cs ++ rest, ?_, ?_⟩
  · rw [List.map_cons, hrest, Part.text, hname, List.cons_append]
  · rintro rfl
    exact hslash (hname ▸ List.mem_cons_self)

/-- A way begins with names exactly if its text is theirs, or goes on behind it with a slash. -/
theorem map_name_prefix_iff_textOf (hnames : names ≠ []) (h : ∀ name ∈ names, IsName name)
    (hway : ∀ part ∈ way, part ≠ .root → '/' ∉ part.text.toList) (htail : .root ∉ way.tail) :
    names.map .name <+: way ↔ textOf way = textOf (names.map .name) ∨
      textOf (names.map .name) ++ ['/'] <+: textOf way := by
  obtain ⟨c, rest, htext, hc⟩ := exists_textOf_map_name_eq hnames h
  have hbegins (hright : textOf way = textOf (names.map .name) ∨
      textOf (names.map .name) ++ ['/'] <+: textOf way) : c :: rest <+: textOf way := by
    rw [← htext]
    rcases hright with heq | hbelow
    · exact heq ▸ List.prefix_rfl
    · exact (List.prefix_append _ _).trans hbelow
  cases way with
  | nil =>
    refine iff_of_false (by simpa using hnames) fun hright => ?_
    exact List.cons_ne_nil c rest (List.prefix_nil.1 (hbegins hright))
  | cons part way =>
    by_cases hroot : part = .root
    · -- An absolute path begins with a slash, and names do not.
      subst hroot
      obtain ⟨more, hmore⟩ := exists_textOf_eq .root way
      refine iff_of_false ?_ fun hright => ?_
      · obtain ⟨name, names, rfl⟩ := List.exists_cons_of_ne_nil hnames
        simp
      · have hslash := hbegins hright
        rw [hmore] at hslash
        exact hc (List.cons_prefix_cons.1 hslash).1
    · have hclean : ∀ segment ∈ (part :: way).map (·.text.toList), '/' ∉ segment := by
        rw [List.forall_mem_map]
        intro other hother
        refine hway other hother ?_
        rintro rfl
        exact (List.mem_cons.1 hother).elim (fun heq => hroot heq.symm) htail
      have hown : (names.map Part.name).map (·.text.toList) = names.map String.toList := by
        rw [List.map_map]
        rfl
      rw [map_name_prefix_iff h, textOf, textOf, hown]
      refine prefix_iff_intercalate (by simpa using hnames) (by simp) ?_ hclean
      rw [List.forall_mem_map]
      exact fun name hname => (h name hname).1

end Path

namespace Matcher

variable {disk : Disk} {root pattern path : String}

/-- The pattern names a directory at or below the root, in any spelling without wildcards. -/
structure NamesDirectory (disk : Disk) (root pattern : String) : Prop where
  isRelative : Path.isAbsolute pattern = false
  isPlain : ∀ c ∈ pattern.toList, c ∉ Glob.wildcards
  staysInside : .up ∉ Path.parts pattern
  isDirectory : disk.isDirectory (Path.join root pattern) = true

/-- A path as seen from a root is written as its steps behind those of the root. -/
theorem exists_relative_eq (h : Path.parts root <+: Path.parts path) :
    ∃ way, Path.steps path = Path.steps root ++ way ∧ way.Sublist (Path.parts path) ∧
      (relative root path).toList = Path.textOf way := by
  obtain ⟨rest, hrest⟩ := h
  have hstrip : Path.stripBase? (Path.parts root) (Path.parts path) = some rest :=
    List.isPrefixOf?_eq_some_iff_append_eq.2 hrest
  refine ⟨rest.filter (· ≠ .here), ?_, ?_, ?_⟩
  · rw [Path.steps, ← hrest, List.filter_append, ← Path.steps]
  · rw [← hrest]
    exact List.filter_sublist.trans (List.sublist_append_right _ _)
  · simp [relative, hstrip, Path.textOf, String.toList_intercalate, Function.comp_def]

theorem toList_relative_join (root : String) (h : Path.isAbsolute pattern = false) :
    (relative root (Path.join root pattern)).toList = Path.textOf (Path.steps pattern) := by
  obtain ⟨way, hway, -, htext⟩ := exists_relative_eq (Path.isPrefix_parts_join root h)
  rw [Path.steps_join root h, List.append_right_inj] at hway
  rw [htext, hway]

/-! ## The globs of a directory -/

/-- What a directory is watched by, given its text as seen from the root. -/
def subtree (own : List Char) : List Glob :=
  if own = [] then [.everything] else [.exactly own, .below own]

theorem isTooDeep_of_mem_subtree {own : List Char} {g : Glob} (h : g ∈ subtree own) :
    g.isTooDeep = false := by
  unfold subtree at h
  split_ifs at h
  · rw [List.mem_singleton.1 h]
    rfl
  · rw [List.mem_pair] at h
    rcases h with rfl | rfl
    · exact Glob.isTooDeep_exactly own
    · exact Glob.isTooDeep_below own

namespace NamesDirectory

/-- As seen from the root the directory is written without wildcards as well. -/
theorem plain_textOf (h : NamesDirectory disk root pattern) :
    ∀ c ∈ Path.textOf (Path.steps pattern), c ∉ Glob.wildcards := by
  obtain ⟨names, hsteps, hnames⟩ := Path.exists_names_of_relative h.isRelative h.staysInside
  intro c hc hwild
  refine Text.not_mem_intercalate ?_ ?_ hc
  · rw [List.mem_singleton]
    rintro rfl
    exact absurd hwild (by decide)
  · rw [hsteps, List.map_map, List.forall_mem_map]
    intro name hname hmem
    exact h.isPlain c (Text.mem_of_mem_splitOn (hnames name hname).2 hmem) hwild

theorem globsOf_eq (h : NamesDirectory disk root pattern) :
    globsOf disk root pattern = .ok (subtree (Path.textOf (Path.steps pattern))) := by
  have hplain := h.plain_textOf
  rw [← toList_relative_join root h.isRelative] at hplain ⊢
  generalize hown : relative root (Path.join root pattern) = own at hplain ⊢
  have hstar : '*' ∉ own.toList := fun hmem => hplain '*' hmem (by decide)
  by_cases hempty : own = ""
  · have hexpand : expand disk root pattern = ["**/*"] := by
      simp [expand, hown, h.isDirectory, hempty]
    rw [globsOf, hexpand, hempty, List.mapM_cons, Glob.parse_everything]
    rfl
  · have hexpand : expand disk root pattern = [own, own ++ "/**/*"] := by
      simp [expand, hown, h.isDirectory, hempty, hstar]
    rw [globsOf, hexpand, List.mapM_cons, List.mapM_cons, Glob.parse_plain hplain,
      Glob.parse_below hplain, subtree, if_neg (by simpa using hempty)]
    rfl

/-- The globs of a directory match the paths below the root that it contains. -/
theorem any_isMatch_iff (h : NamesDirectory disk root pattern)
    (hpath : Path.parts root <+: Path.parts path) :
    (subtree (Path.textOf (Path.steps pattern))).any (·.isMatch (relative root path)) = true ↔
      Path.Contains (Path.join root pattern) path := by
  obtain ⟨names, hsteps, hnames⟩ := Path.exists_names_of_relative h.isRelative h.staysInside
  obtain ⟨way, hway, hparts, htext⟩ := exists_relative_eq hpath
  have hslash : ∀ part ∈ way, part ≠ .root → '/' ∉ part.text.toList :=
    fun part hpart => Path.slash_not_mem_text (hparts.subset hpart)
  have htail : .root ∉ way.tail := mt (hparts.tail.subset ·) (Path.root_not_mem_tail path)
  rw [Path.Contains, Path.steps_join root h.isRelative, hway, List.prefix_append_right_inj, hsteps]
  by_cases hempty : names = []
  · subst hempty
    simp [subtree, Path.textOf, Glob.isMatch_everything]
  · have hnamed : ∀ name ∈ names, Path.IsName name := fun name hname => (hnames name hname).1
    obtain ⟨c, rest, hown, -⟩ := Path.exists_textOf_map_name_eq hempty hnamed
    rw [Path.map_name_prefix_iff_textOf hempty hnamed hslash htail, ← htext, subtree,
      if_neg (by simp [hown])]
    simp [Glob.isMatch_exactly, Glob.isMatch_below]

end NamesDirectory

/-- The matcher that watches directories. -/
def ofDirectories (root : String) (patterns : List String) : Matcher where
  root
  watched := patterns.flatMap fun pattern => subtree (Path.textOf (Path.steps pattern))
  excluded := []

theorem make_ofDirectories {patterns : List String}
    (h : ∀ pattern ∈ patterns, NamesDirectory disk root pattern) :
    make disk root patterns [] = .ok (ofDirectories root patterns) := by
  have hglobs : patterns.mapM (globsOf disk root) =
      .ok (patterns.map fun pattern => subtree (Path.textOf (Path.steps pattern))) := by
    induction patterns with
    | nil => rfl
    | cons pattern patterns ih =>
      rw [List.forall_mem_cons] at h
      rw [List.mapM_cons, h.1.globsOf_eq, ih h.2]
      rfl
  have hshallow : Glob.nestingFault? (ofDirectories root patterns).watched = none := by
    refine Glob.nestingFault?_eq_none fun g hg => ?_
    obtain ⟨pattern, -, hg⟩ := List.mem_flatMap.1 hg
    exact isTooDeep_of_mem_subtree hg
  have hwatched : globs disk root patterns = .ok (ofDirectories root patterns).watched := by
    rw [ofDirectories, List.flatMap] at hshallow
    simp [globs, hglobs, bind, Except.bind, hshallow, ofDirectories, List.flatMap]
  rw [make, hwatched]
  rfl

/-- Without excludes, a file below the root is watched if it matches. -/
theorem isIgnored_file {m : Matcher} (hexcluded : m.excluded = [])
    (hroot : Path.parts path ≠ Path.parts m.root) :
    m.isIgnored disk path (some false) = false ↔
      .name skipped ∉ Path.parts path ∧
        m.watched.any (·.isMatch (relative m.root path)) = true := by
  by_cases hskipped : .name skipped ∈ Path.parts path
  · simp [isIgnored_of_skipped hskipped, hskipped]
  · rw [isIgnored, if_neg (by simpa using hskipped), if_neg (by simpa [Path.same] using hroot)]
    simp [hexcluded, hskipped]

end Matcher

/-! ## Main theorem -/

/-- Patterns that name directories make a matcher, and this watches, among the files below its root,
exactly those that one of the directories contains. Of the directories it leaves out none. What is in
`node_modules` never counts. -/
theorem Matcher.watches_subtrees (disk : Disk) (root : String) (patterns : List String)
    (h : ∀ pattern ∈ patterns, NamesDirectory disk root pattern) :
    ∃ m, make disk root patterns [] = .ok m ∧
      ∀ (later : Disk) (path : String), Path.parts root <+: Path.parts path →
        Path.parts path ≠ Path.parts root →
        (m.isIgnored later path (some false) = false ↔
          .name skipped ∉ Path.parts path ∧
            ∃ pattern ∈ patterns, Path.Contains (Path.join root pattern) path) ∧
        (m.isIgnored later path (some true) = false ↔ .name skipped ∉ Path.parts path) := by
  refine ⟨ofDirectories root patterns, make_ofDirectories h, fun later path hpath hroot => ?_⟩
  constructor
  · rw [isIgnored_file rfl hroot]
    refine and_congr_right fun _ => ?_
    rw [ofDirectories, List.any_flatMap, List.any_eq_true]
    exact exists_congr fun pattern => and_congr_right fun hmem =>
      (h pattern hmem).any_isMatch_iff hpath
  · rw [← Bool.not_eq_true, isIgnored_directory, not_or, and_iff_left_iff_imp]
    rintro - ⟨-, hleft⟩
    cases hleft

/-- A disk on which a project has two directories. -/
def Disk.twoDirectories : Disk where
  root := .directory [("p", .directory [("src", .directory []), ("lib", .directory [])])]
  workingDirectory := []

/-- However the directories are spelled, a directory beside them whose name only begins with that of
one of them is not watched. -/
theorem Matcher.watches_two_directories :
    (∀ pattern ∈ ["./src//", "lib"], NamesDirectory .twoDirectories "/p" pattern) ∧
      ∃ m, make .twoDirectories "/p" ["./src//", "lib"] [] = .ok m ∧ ∀ later : Disk,
        m.isIgnored later "/p/src/deep/a.ts" (some false) = false ∧
        m.isIgnored later "/p/srcs/a.ts" (some false) = true ∧
        m.isIgnored later "/p/lib/node_modules/b.ts" (some false) = true ∧
        m.isIgnored later "/p/srcs" (some true) = false := by
  have hnames : ∀ pattern ∈ ["./src//", "lib"], NamesDirectory .twoDirectories "/p" pattern := by
    rw [List.forall_mem_cons, List.forall_mem_singleton]
    exact ⟨⟨by decide, by simp [Glob.wildcards], by decide +kernel, by decide +kernel⟩,
      ⟨by decide, by simp [Glob.wildcards], by decide +kernel, by decide +kernel⟩⟩
  obtain ⟨m, hmake, hwatches⟩ := watches_subtrees .twoDirectories "/p" _ hnames
  refine ⟨hnames, m, hmake, fun later => ?_⟩
  have hbelow := hwatches later
  refine ⟨?_, ?_, ?_, ?_⟩
  · exact (hbelow "/p/src/deep/a.ts" (by decide +kernel) (by decide +kernel)).1.2
      (by decide +kernel)
  · rw [← Bool.not_eq_false, (hbelow "/p/srcs/a.ts" (by decide +kernel) (by decide +kernel)).1]
    decide +kernel
  · rw [← Bool.not_eq_false,
      (hbelow "/p/lib/node_modules/b.ts" (by decide +kernel) (by decide +kernel)).1]
    decide +kernel
  · exact (hbelow "/p/srcs" (by decide +kernel) (by decide +kernel)).2.2 (by decide +kernel)

end Sidecheck
