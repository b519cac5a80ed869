import Mathlib.Data.List.Basic
import Sidecheck.Disk
import Sidecheck.Proofs.Below
/-!
# Where a file is created

A file is created at a list of names, and from there on it is written to whatever happens to its
path. What is put at a list of names is found there (`Entry.at?_of_set?`), and putting a file, or a
directory that was missing, leaves every other directory and all links where they are
(`Disk.Keeps`). So the directories that are made on the way to a file are those that its path leads
through, and the path of a file that was created leads to it, behind a link if there was one:
`Disk.locate_of_createFile`.
-/

namespace Sidecheck

namespace Entry

theorem lookup_setEntry (entries : List (FileName × Entry)) (name : FileName) (new : Entry) :
    (setEntry entries name (some new)).lookup name = some new := by
  rw [setEntry]
  split
  · rename_i hany
    induction entries with
    | nil => cases hany
    | cons entry entries ih =>
      by_cases hname : entry.1 = name
      · simp [hname]
      · have hrest : entries.any (·.1 = name) = true := by simpa [hname] using hany
        have hne : (name == entry.1) = false := by simpa using fun heq => hname heq.symm
        simpa [List.lookup_cons, hne] using ih hrest
  · rename_i hany
    have hnone : entries.lookup name = none := by
      rw [List.lookup_eq_none_iff]
      intro entry hentry
      simpa using fun heq => hany (List.any_eq_true.2 ⟨entry, hentry, by simp [heq]⟩)
    simp [List.lookup_append, hnone]

theorem set?_cons (entries : List (FileName × Entry)) (name : String) (rest : List String)
    (new : Entry) :
    (directory entries).set? (name :: rest) (some new) =
      (((entries.lookup (.text name)).getD (.directory [])).set? rest (some new)).map fun below =>
        .directory (setEntry entries name (some below)) := by
  cases rest with
  | nil => rfl
  | cons next rest =>
    rw [set?, Option.map_eq_bind]
    · rfl
    · exact List.cons_ne_nil next rest

theorem at?_concat {place : List String} {e : Entry} (name : String) :
    e.at? (place ++ [name]) = (e.at? place).bind (·.at? [name]) := by
  induction place generalizing e with
  | nil => rfl
  | cons first place ih =>
    cases e with
    | file => rfl
    | link => rfl
    | directory entries =>
      rw [List.cons_append, at?, at?]
      cases entries.lookup (.text first) with
      | none => rfl
      | some child => exact ih

/-- What is put at a list of names is found there. -/
theorem at?_of_set? {new : Entry} {place : List String} {e root : Entry}
    (h : e.set? place (some new) = some root) : root.at? place = some new := by
  induction place generalizing e root with
  | nil => simpa [set?, at?] using h.symm
  | cons name rest ih =>
    cases e with
    | file => cases h
    | link => cases h
    | directory entries =>
      rw [set?_cons, Option.map_eq_some_iff] at h
      obtain ⟨below, hbelow, rfl⟩ := h
      rw [at?, lookup_setEntry, Option.bind_some, ih hbelow]

/-- A directory stands at a list of names. -/
def HasDirectory (e : Entry) (place : List String) : Prop :=
  ∃ entries, e.at? place = some (.directory entries)

/-- Nothing stands at a list of names, or a file, which can be replaced. -/
def IsFree (e : Entry) (place : List String) : Prop :=
  ∀ found, e.at? place = some found → ∃ bytes executable, found = .file bytes executable

theorem isFree_of_none {e : Entry} {place : List String} (h : e.at? place = none) :
    e.IsFree place := by
  intro found hfound
  rw [h] at hfound
  cases hfound

theorem isFree_of_file {e : Entry} {place : List String} {bytes : ByteArray} {executable : Bool}
    (h : e.at? place = some (.file bytes executable)) : e.IsFree place := by
  intro found hfound
  rw [h] at hfound
  exact ⟨bytes, executable, (Option.some.inj hfound).symm⟩

theorem IsFree.ne_of_at? {e found : Entry} {place other : List String} (hfree : e.IsFree place)
    (h : e.at? other = some found) (hfound : ∀ bytes executable, found ≠ .file bytes executable) :
    other ≠ place := by
  rintro rfl
  obtain ⟨bytes, executable, hfile⟩ := hfree found h
  exact hfound bytes executable hfile

theorem lookup_setEntry_of_ne (entries : List (FileName × Entry)) {name other : FileName}
    (h : other ≠ name) (new : Entry) :
    (setEntry entries name (some new)).lookup other = entries.lookup other := by
  have hne : (other == name) = false := by simpa using h
  rw [setEntry]
  split
  · clear * - hne
    induction entries with
    | nil => rfl
    | cons entry entries ih =>
      rw [List.map_cons, List.lookup_cons, List.lookup_cons, ih]
      by_cases hname : entry.1 = name
      · simp [hname, hne]
      · simp [hname]
  · simp [List.lookup_append, List.lookup_cons, hne]

/-- What stands at a list of names stands in a directory. -/
theorem exists_lookup_of_at?_concat {e found : Entry} {place : List String} {name : String}
    (h : e.at? (place ++ [name]) = some found) :
    ∃ entries, e.at? place = some (.directory entries) ∧
      entries.lookup (.text name) = some found := by
  rw [at?_concat, Option.bind_eq_some_iff] at h
  obtain ⟨parent, hparent, hname⟩ := h
  cases parent with
  | file => cases hname
  | link => cases hname
  | directory entries =>
    refine ⟨entries, hparent, ?_⟩
    simpa [at?] using hname

theorem HasDirectory.dropLast {e : Entry} {place : List String} (h : e.HasDirectory place) :
    e.HasDirectory place.dropLast := by
  rcases List.eq_nil_or_concat place with rfl | ⟨place, name, rfl⟩
  · exact h
  · obtain ⟨entries, hentries⟩ := h
    rw [List.concat_eq_append] at hentries ⊢
    obtain ⟨parent, hparent, -⟩ := exists_lookup_of_at?_concat hentries
    rw [List.dropLast_concat]
    exact ⟨parent, hparent⟩

/-- What is put where at most a file is leaves everything else as it is, except for what is in the
directories above it. -/
theorem at?_set?_of_ne {new : Entry} {place : List String} {e root : Entry}
    (hset : e.set? place (some new) = some root) (hfree : e.IsFree place) {other : List String}
    (hne : other ≠ place) {found : Entry} (h : e.at? other = some found) :
    root.at? other = some found ∨ (∃ entries, found = .directory entries) ∧
      root.HasDirectory other := by
  induction place generalizing e root other with
  | nil =>
    obtain ⟨bytes, executable, rfl⟩ := hfree e rfl
    cases other with
    | nil => exact absurd rfl hne
    | cons => cases h
  | cons name rest ih =>
    cases e with
    | file => cases hset
    | link => cases hset
    | directory es =>
      rw [set?_cons, Option.map_eq_some_iff] at hset
      obtain ⟨below, hbelow, rfl⟩ := hset
      cases other with
      | nil => exact .inr ⟨⟨es, (Option.some.inj h).symm⟩, _, rfl⟩
      | cons first tail =>
        obtain ⟨child, hchild, hat⟩ := Option.bind_eq_some_iff.1 h
        -- Only the child of that name is another one, and the rest of the names is put below it.
        by_cases hfirst : first = name
        · subst hfirst
          rw [hchild, Option.getD_some] at hbelow
          have hrest : child.IsFree rest := fun found hfound =>
            hfree found (by rw [at?, hchild, Option.bind_some, hfound])
          have htail : tail ≠ rest := fun heq => hne (by rw [heq])
          have hsame : (directory (setEntry es first (some below))).at? (first :: tail) =
              below.at? tail := by
            rw [at?, lookup_setEntry, Option.bind_some]
          rw [HasDirectory, hsame]
          exact ih hbelow hrest htail hat
        · have hother : FileName.text first ≠ .text name := fun heq => hfirst (FileName.text.inj heq)
          have hsame := lookup_setEntry_of_ne es hother below
          exact .inl (by rw [at?, hsame, hchild, Option.bind_some, hat])

/-- Where something is, something else can be put. -/
theorem exists_set? {old : Entry} (new : Entry) {place : List String} {e : Entry}
    (h : e.at? place = some old) : ∃ root, e.set? place (some new) = some root := by
  induction place generalizing e with
  | nil => exact ⟨_, rfl⟩
  | cons name rest ih =>
    cases e with
    | file => cases h
    | link => cases h
    | directory entries =>
      rw [at?, Option.bind_eq_some_iff] at h
      obtain ⟨child, hchild, hrest⟩ := h
      obtain ⟨below, hbelow⟩ := ih hrest
      refine ⟨.directory (setEntry entries name (some below)), ?_⟩
      rw [set?_cons, hchild, Option.getD_some, hbelow, Option.map_some]

end Entry

namespace Disk

variable {d : Disk} {place : List String} {executable : Bool}

theorem emptyFile?_eq_some {d' : Disk} (h : d.emptyFile? place = some d') :
    d.root.IsFree place ∧
      ∃ executable root, d.root.set? place (some (.file .empty executable)) = some root ∧
        d' = { d with root } := by
  have hput (executable : Bool)
      (h : (d.root.set? place (some (.file .empty executable))).bind
        (fun root => some { d with root }) = some d') :
      ∃ executable root, d.root.set? place (some (.file .empty executable)) = some root ∧
        d' = { d with root } := by
    obtain ⟨root, hroot, hd⟩ := Option.bind_eq_some_iff.1 h
    exact ⟨executable, root, hroot, (Option.some.inj hd).symm⟩
  rw [emptyFile?] at h
  split at h
  · rename_i bytes executable hat
    exact ⟨Entry.isFree_of_file hat, hput executable h⟩
  · cases h
  · cases h
  · rename_i hat
    split at h
    · exact ⟨Entry.isFree_of_none hat, hput false h⟩
    · cases h

/-- The name of the file that a path leads to. -/
def lastSegment (path : String) : List Char := (path.toList.splitOn '/').getLast?.getD []

/-- How a file comes to be created. -/
structure Creates (d : Disk) (path : String) (made d' : Disk) (dir place : List String) :
    Prop where
  noNul : hasNul path = false
  directories : d.makeDirectories d.workingDirectory (Path.parts path).dropLast = (made, some dir)
  proper : ¬ (lastSegment path = [] ∨ lastSegment path = ['.'] ∨ lastSegment path = ['.', '.'])
  shortName : (String.ofList (lastSegment path)).utf8ByteSize ≤ longestName
  shortPath : path.utf8ByteSize ≤ longestPath
  meant : place = made.fileMeant (dir ++ [.ofList (lastSegment path)])
  emptied : made.emptyFile? place = some d'

theorem creates_of_createFile {path : String} {d' : Disk}
    (h : d.createFile path = (d', some place)) : ∃ made dir, d.Creates path made d' dir place := by
  unfold createFile at h
  extract_lets segment at h
  cases hnul : hasNul path with
  | true => simp [hnul] at h
  | false =>
    rw [if_neg (by simp [hnul])] at h
    split at h
    · simp at h
    · rename_i made dir hmade
      split_ifs at h with hproper hlong
      · simp at h
      · simp at h
      · rw [not_or, Nat.not_lt, Nat.not_lt] at hlong
        dsimp only at h
        split at h
        · rename_i hempty
          obtain ⟨rfl, hplace⟩ := Prod.mk.inj h
          obtain rfl := Option.some.inj hplace
          exact ⟨made, dir, hnul, hmade, hproper, hlong.1, hlong.2, rfl, hempty⟩
        · simp at h

/-- The file that is created is empty, whatever was there. -/
theorem at?_createFile {path : String} {d' : Disk} (h : d.createFile path = (d', some place)) :
    ∃ executable, d'.root.at? place = some (.file .empty executable) := by
  obtain ⟨made, dir, hcreates⟩ := creates_of_createFile h
  obtain ⟨-, executable, root, hroot, rfl⟩ := emptyFile?_eq_some hcreates.emptied
  exact ⟨executable, Entry.at?_of_set? hroot⟩

/-! ## Directories that stay -/

/-- Every directory of a disk is one of another disk as well, and every link is the same. -/
structure Keeps (d d' : Disk) : Prop where
  directory : ∀ place, d.root.HasDirectory place → d'.root.HasDirectory place
  link : ∀ place target, d.root.at? place = some (.link target) →
    d'.root.at? place = some (.link target)

theorem Keeps.refl (d : Disk) : d.Keeps d := ⟨fun _ h => h, fun _ _ h => h⟩

theorem Keeps.trans {d₁ d₂ d₃ : Disk} (h : d₁.Keeps d₂) (h' : d₂.Keeps d₃) : d₁.Keeps d₃ where
  directory place hplace := h'.directory place (h.directory place hplace)
  link place target hplace := h'.link place target (h.link place target hplace)

theorem keeps_of_set? {new root : Entry} (hset : d.root.set? place (some new) = some root)
    (hfree : d.root.IsFree place) : d.Keeps { d with root } where
  directory other h := by
    obtain ⟨entries, hat⟩ := h
    obtain hsame | ⟨-, hthere⟩ := Entry.at?_set?_of_ne hset hfree (hfree.ne_of_at? hat nofun) hat
    · exact ⟨entries, hsame⟩
    · exact hthere
  link other target hat := by
    obtain hsame | ⟨⟨_, hdirectory⟩, -⟩ :=
      Entry.at?_set?_of_ne hset hfree (hfree.ne_of_at? hat nofun) hat
    · exact hsame
    · cases hdirectory

/-- Adding to a file changes its bytes and nothing about directories. -/
theorem append_of_at? {old : ByteArray} (h : d.root.at? place = some (.file old executable))
    (bytes : ByteArray) :
    (d.append place bytes).root.at? place = some (.file (old ++ bytes) executable) ∧
      d.Keeps (d.append place bytes) ∧
      (d.append place bytes).workingDirectory = d.workingDirectory := by
  obtain ⟨root, hroot⟩ := Entry.exists_set? (.file (old ++ bytes) executable) h
  have happend : d.append place bytes = { d with root } := by simp only [append, h, hroot]
  rw [happend]
  exact ⟨Entry.at?_of_set? hroot, keeps_of_set? hroot (Entry.isFree_of_file h), rfl⟩

/-- A directory stands at a list of names, or behind a link there. -/
structure LeadsInto (d : Disk) (place dir : List String) : Prop where
  there : d.root.HasDirectory dir
  way : place = dir ∨ d.root.at? place = some (.link dir)

theorem LeadsInto.keeps {d' : Disk} {dir : List String} (h : d.LeadsInto place dir)
    (hkeeps : d.Keeps d') : d'.LeadsInto place dir where
  there := hkeeps.directory dir h.there
  way := h.way.imp_right (hkeeps.link place dir)

theorem LeadsInto.behind?_eq {dir : List String} (h : d.LeadsInto place dir) :
    d.behind? place = some dir := by
  obtain ⟨entries, hentries⟩ := h.there
  obtain rfl | hlink := h.way
  · simp only [behind?, hentries]
  · simp only [behind?, hlink, hentries]

/-- A name of a path leads into a directory that was there, behind a link or not, or is made. -/
theorem makeDirectories_name {text : String} {parts : List Path.Part} {made : Disk}
    {dir : List String} (h : d.makeDirectories place (.name text :: parts) = (made, some dir)) :
    ∃ d₁ next, d.Keeps d₁ ∧ d₁.workingDirectory = d.workingDirectory ∧
      d₁.LeadsInto (place ++ [text]) next ∧ d₁.makeDirectories next parts = (made, some dir) := by
  rw [makeDirectories] at h
  split at h
  · rename_i entries hentries
    exact ⟨d, _, .refl d, rfl, ⟨⟨entries, hentries⟩, .inl rfl⟩, h⟩
  · simp at h
  · rename_i target hlink
    split at h
    · rename_i entries hentries
      exact ⟨d, target, .refl d, rfl, ⟨⟨entries, hentries⟩, .inr hlink⟩, h⟩
    · simp at h
  · rename_i hnone
    split_ifs at h
    · simp at h
    · split at h
      · rename_i root hroot
        have hkeeps := keeps_of_set? hroot (Entry.isFree_of_none hnone)
        exact ⟨_, _, hkeeps, rfl, ⟨⟨[], Entry.at?_of_set? hroot⟩, .inl rfl⟩, h⟩
      · simp at h

theorem keeps_makeDirectories {parts : List Path.Part} {d made : Disk} {place dir : List String}
    (h : d.makeDirectories place parts = (made, some dir)) :
    d.Keeps made ∧ made.workingDirectory = d.workingDirectory := by
  induction parts generalizing d place with
  | nil =>
    cases h
    exact ⟨.refl _, rfl⟩
  | cons part parts ih =>
    cases part with
    | root => exact ih h
    | here => exact ih h
    | up => exact ih h
    | name text =>
      obtain ⟨d₁, _, hkeeps, hworking, -, hrest⟩ := makeDirectories_name h
      obtain ⟨hkeeps', hworking'⟩ := ih hrest
      exact ⟨hkeeps.trans hkeeps', hworking'.trans hworking⟩

/-! ## The way to a file -/

/-- Where a path starts from. -/
def start (d : Disk) (path : String) : List String :=
  if Path.isAbsolute path then [] else d.workingDirectory

/-- Above what stands at a list of names there is a directory to start from. -/
theorem hasDirectory_start {d' : Disk} {dir : List String} {name path : String} {e : Entry}
    (hthere : d'.root.HasDirectory d.workingDirectory) (h : d'.root.at? (dir ++ [name]) = some e) :
    d'.root.HasDirectory (d.start path) := by
  rw [start]
  split
  · cases hroot : d'.root with
    | file =>
      rw [hroot] at h
      cases dir <;> cases h
    | link =>
      rw [hroot] at h
      cases dir <;> cases h
    | directory entries => exact ⟨entries, rfl⟩
  · exact hthere

/-- The segments of a path lead through the directories that are made for its parts. -/
theorem follow_of_makeDirectories {segments : List (List Char)} {d made d' : Disk}
    {place dir : List String}
    (hmade : d.makeDirectories place (segments.filterMap Path.partOf?) = (made, some dir))
    (hkeeps : made.Keeps d') (hplace : d'.root.HasDirectory place)
    (hshort : ∀ s ∈ segments, (String.ofList s).utf8ByteSize ≤ longestName)
    (more : List (List Char)) : d'.follow place (segments ++ more) = d'.follow dir more := by
  induction segments generalizing d place with
  | nil =>
    cases hmade
    rfl
  | cons s segments ih =>
    obtain ⟨hs, hshort⟩ := List.forall_mem_cons.1 hshort
    have hplace' := hplace
    obtain ⟨entries, hentries⟩ := hplace'
    rw [List.cons_append, follow, hentries]
    dsimp only
    by_cases hsame : s = [] ∨ s = ['.']
    · have hpart : Path.partOf? s = none := if_pos hsame
      rw [List.filterMap_cons_none hpart] at hmade
      rw [if_pos hsame]
      exact ih hmade hplace hshort
    · rw [if_neg hsame]
      by_cases hup : s = ['.', '.']
      · have hpart : Path.partOf? s = some .up := by rw [Path.partOf?, if_neg hsame, if_pos hup]
        rw [List.filterMap_cons_some hpart] at hmade
        rw [if_pos hup]
        exact ih hmade hplace.dropLast hshort
      · have hpart : Path.partOf? s = some (.name (.ofList s)) := by
          rw [Path.partOf?, if_neg hsame, if_neg hup]
        rw [List.filterMap_cons_some hpart] at hmade
        -- The directory of that name was there or is made here, and is there still.
        obtain ⟨d₁, next, -, -, hleads, hrest⟩ := makeDirectories_name hmade
        have hnext := hleads.keeps ((keeps_makeDirectories hrest).1.trans hkeeps)
        rw [if_neg hup, if_neg (Nat.not_lt.2 hs), hnext.behind?_eq]
        exact ih hrest hnext.there hshort

theorem exists_splitOn_eq (path : String) :
    ∃ init, path.toList.splitOn '/' = init ++ [lastSegment path] := by
  have hne := List.splitOn_ne_nil '/' path.toList
  refine ⟨(path.toList.splitOn '/').dropLast, ?_⟩
  rw [lastSegment, List.getLast?_eq_some_getLast hne, Option.getD_some,
    List.dropLast_append_getLast hne]

theorem isAbsolute_iff {path : String} {first : List Char} {more : List (List Char)}
    (h : path.toList.splitOn '/' = first :: more) (hmore : more ≠ [] ∨ first ≠ []) :
    Path.isAbsolute path = true ↔ first = [] := by
  rw [Path.isAbsolute, decide_eq_true_eq]
  cases hpath : path.toList with
  | nil =>
    rw [hpath, List.splitOn_nil] at h
    obtain ⟨rfl, rfl⟩ := List.cons.inj h
    simp at hmore
  | cons c cs =>
    obtain ⟨next, others, hnext⟩ := List.exists_cons_of_ne_nil (List.splitOn_ne_nil '/' cs)
    rw [hpath, List.splitOn_cons_eq_if_modifyHead, hnext] at h
    split at h
    · rename_i hc
      obtain ⟨rfl, -⟩ := List.cons.inj h
      simpa using hc
    · rename_i hc
      rw [List.modifyHead_cons] at h
      obtain ⟨rfl, -⟩ := List.cons.inj h
      simpa using hc

/-- The directories on the way to a file are made from where its path starts. -/
theorem makeDirectories_parts {path : String} {init : List (List Char)} {last : List Char}
    (h : path.toList.splitOn '/' = init ++ [last])
    (hlast : ¬ (last = [] ∨ last = ['.'] ∨ last = ['.', '.'])) :
    d.makeDirectories d.workingDirectory (Path.parts path).dropLast =
      d.makeDirectories (d.start path) (init.filterMap Path.partOf?) := by
  simp only [not_or] at hlast
  obtain ⟨hempty, hdot, hup⟩ := hlast
  have hpart : Path.partOf? last = some (.name (.ofList last)) := by
    simp [Path.partOf?, hempty, hdot, hup]
  have hparts (segments : List (List Char)) : (segments ++ [last]).filterMap Path.partOf? =
      segments.filterMap Path.partOf? ++ [.name (.ofList last)] := by
    rw [List.filterMap_append, List.filterMap_cons_some hpart, List.filterMap_nil]
  cases init with
  | nil =>
    have habsolute : ¬ Path.isAbsolute path = true := fun habs =>
      hempty ((isAbsolute_iff h (.inr hempty)).1 habs)
    rw [Path.parts_eq_of_splitOn h, if_neg hempty, if_neg hdot, start, if_neg habsolute]
    simp [hpart]
  | cons first init =>
    have hmore : init ++ [last] ≠ [] := by simp
    rw [List.cons_append] at h
    have habsolute := isAbsolute_iff h (.inl hmore)
    rw [Path.parts_eq_of_splitOn h, start]
    by_cases hfirst : first = []
    · have hnone : Path.partOf? first = none := if_pos (.inl hfirst)
      rw [if_pos hfirst, if_neg hmore, if_pos (habsolute.2 hfirst), hparts, ← List.cons_append,
        List.dropLast_concat, List.filterMap_cons_none hnone]
      rfl
    · rw [if_neg hfirst, if_neg (fun habs => hfirst (habsolute.1 habs)), ← List.cons_append, hparts,
        ← List.append_assoc, List.dropLast_concat]
      split
      · rfl
      · rfl

/-- The file that was meant is found again, behind the link that led to it or where there was none. -/
theorem behind?_fileMeant {d' : Disk} {way : List String} {bytes : ByteArray} (hkeeps : d.Keeps d')
    (hmeant : place = d.fileMeant way) (h : d'.root.at? place = some (.file bytes executable)) :
    ∃ found, d'.root.at? way = some found ∧ d'.behind? way = some place := by
  rw [fileMeant] at hmeant
  split at hmeant
  · rename_i target hlink
    obtain rfl : place = target := hmeant
    have hkept := hkeeps.link way place hlink
    exact ⟨_, hkept, by simp only [behind?, hkept, h]⟩
  · obtain rfl : place = way := hmeant
    exact ⟨_, h, by simp only [behind?, h]⟩

/-- The path of a file that was created leads to it, as long as it is there and no directory is
lost. The directory that relative paths start from must be there, and no name may be too long. -/
theorem locate_of_createFile {path : String} {d₁ d' : Disk} {bytes : ByteArray}
    (h : d.createFile path = (d₁, some place)) (hkeeps : d₁.Keeps d')
    (hworking : d'.workingDirectory = d₁.workingDirectory)
    (hthere : d.root.HasDirectory d.workingDirectory)
    (hshort : ∀ s ∈ path.toList.splitOn '/', (String.ofList s).utf8ByteSize ≤ longestName)
    (hfile : d'.root.at? place = some (.file bytes executable)) : d'.locate path = .ok place := by
  obtain ⟨made, dir, hcreates⟩ := creates_of_createFile h
  obtain ⟨hfree, _, root, hroot, rfl⟩ := emptyFile?_eq_some hcreates.emptied
  obtain ⟨init, hinit⟩ := exists_splitOn_eq path
  have hproper := hcreates.proper
  have hmade := hcreates.directories
  rw [makeDirectories_parts hinit hproper] at hmade
  obtain ⟨hkeepsMade, hworkingMade⟩ := keeps_makeDirectories hmade
  have hkeeps' : made.Keeps d' := (keeps_of_set? hroot hfree).trans hkeeps
  obtain ⟨found, hfound, hbehind⟩ := behind?_fileMeant hkeeps' hcreates.meant hfile
  obtain ⟨entries, hentries, -⟩ := Entry.exists_lookup_of_at?_concat hfound
  have hstart : d'.root.HasDirectory (d.start path) :=
    hasDirectory_start (hkeeps'.directory _ (hkeepsMade.directory _ hthere)) hfound
  have hempty : path.isEmpty = false := by
    rw [String.isEmpty_eq_false_iff]
    rintro rfl
    exact hproper (.inl rfl)
  have hfrom : (if Path.isAbsolute path then [] else d'.workingDirectory) = d.start path := by
    rw [start, hworking, ← hworkingMade]
  rw [hinit] at hshort
  obtain ⟨hshort, -⟩ := List.forall_mem_append.1 hshort
  have hfollow := follow_of_makeDirectories hmade hkeeps' hstart hshort [lastSegment path]
  simp only [not_or] at hproper
  rw [locate, if_neg (by simp [Nat.not_lt.2 hcreates.shortPath]), resolve,
    if_neg (by simp [hcreates.noNul]), if_neg (by simp [hempty]), hfrom, hinit, hfollow, follow,
    hentries]
  simp [hproper, Nat.not_lt.2 hcreates.shortName, hbehind, follow]

theorem readText_of_locate {path text : String} (hpath : d.locate path = .ok place)
    (h : d.root.at? place = some (.file text.toUTF8 executable)) : d.readText path = .ok text := by
  have hentry : d.entry path = .ok (.file text.toUTF8 executable) := by
    rw [entry, hpath]
    simp only [bind, Except.bind, h]
  have htext : String.fromUTF8? text.toUTF8 = some text := dif_pos text.isValidUTF8
  rw [readText, hentry]
  simp only [bind, Except.bind, htext]

end Disk

end Sidecheck
