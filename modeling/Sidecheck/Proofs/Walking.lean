import Mathlib.Data.List.Nodup
import Sidecheck.Proofs.Creating
/-!
# The files below a directory

A walk goes through a directory and all that is in it, and the path of what it comes to is the
directory's with the names on the way behind it. The parts of such a path are those of the
directory and these names (`Path.parts_join`), so nothing is listed twice if no directory has a name
twice, and a file that lies in a skipped directory has the name of that directory among its parts.
`Entry.mem_files_iff` says what a walk lists: neither what is behind a link nor what has a name that
is no text. A path is looked up another way, through links, but that of a file that a walk lists
leads to this file (`Disk.Leads.reaches`), since no link can be on the way below the directory.
-/

namespace Sidecheck

namespace Path

variable {path name : String}

/-- A name that something in a directory can have. -/
def IsName (name : String) : Prop :=
  '/' ∉ name.toList ∧ name.toList ≠ [] ∧ name.toList ≠ ['.'] ∧ name.toList ≠ ['.', '.']

instance (name : String) : Decidable (IsName name) := inferInstanceAs (Decidable (_ ∧ _))

theorem IsName.partOf?_eq (h : IsName name) : partOf? name.toList = some (.name name) := by
  obtain ⟨-, hempty, hdot, hup⟩ := h
  rw [partOf?, if_neg (not_or.2 ⟨hempty, hdot⟩), if_neg hup, String.ofList_toList]

theorem IsName.isAbsolute (h : IsName name) : isAbsolute name = false := by
  rw [Path.isAbsolute, decide_eq_false_iff_not]
  exact fun hhead => h.1 (List.mem_of_head? hhead)

theorem eq_empty_of_splitOn (h : path.toList.splitOn '/' = [[]]) : path = "" := by
  have hwhole : ['/'].intercalate (path.toList.splitOn '/') = path.toList :=
    List.intercalate_splitOn '/'
  rw [h] at hwhole
  simpa using hwhole.symm

/-- The segments of a relative path come behind those of the path that it is put behind, whether
there was a slash at the end or not. -/
theorem exists_splitOn_join (path : String) {rest : String} (h : isAbsolute rest = false) :
    ∃ before, (join path rest).toList.splitOn '/' = before ++ rest.toList.splitOn '/' ∧
      (path.toList.splitOn '/' = before ++ [[]] ∨
        path.toList.splitOn '/' = before ∧ before ≠ [[]]) := by
  rw [join, if_neg (by simp [h])]
  split
  · rename_i hend
    rw [String.toList_append]
    cases hlast : path.toList.getLast? with
    | none =>
      rw [List.getLast?_eq_none_iff] at hlast
      exact ⟨[], by simp [hlast], .inl (by simp [hlast])⟩
    | some c =>
      obtain ⟨init, hinit⟩ := List.getLast?_eq_some_iff.1 hlast
      obtain rfl : c = '/' := by simpa [hlast] using hend
      refine ⟨init.splitOn '/', ?_, .inl ?_⟩
      · rw [hinit, List.append_assoc, List.singleton_append, List.splitOn_append_cons_self]
      · rw [hinit, List.splitOn_append_cons_self, List.splitOn_nil]
  · rename_i hend
    refine ⟨path.toList.splitOn '/', ?_, .inr ⟨rfl, fun hempty => ?_⟩⟩
    · have hslash : (path ++ "/" ++ rest).toList = path.toList ++ '/' :: rest.toList := by simp
      rw [hslash, List.splitOn_append_cons_self]
    · simp [eq_empty_of_splitOn hempty] at hend

theorem IsName.splitOn_eq (h : IsName name) : name.toList.splitOn '/' = [name.toList] :=
  List.splitOn_eq_singleton h.1

theorem exists_join_eq (path : String) {rest : String} (h : isAbsolute rest = false) :
    ∃ slash, join path rest = path ++ slash ++ rest := by
  rw [join, if_neg (by simp [h])]
  split
  · exact ⟨"", by rw [String.append_empty]⟩
  · exact ⟨"/", rfl⟩

/-- An empty segment at the end says nothing, unless the path has no other. -/
theorem parts_eq_of_before {first : List Char} {more : List (List Char)}
    (h : path.toList.splitOn '/' = first :: more ++ [[]] ∨
      path.toList.splitOn '/' = first :: more ∧ first :: more ≠ [[]]) :
    parts path =
      if first = [] then .root :: more.filterMap partOf?
      else (if first = ['.'] then [.here] else []) ++ (first :: more).filterMap partOf? := by
  obtain hpath | ⟨hpath, hmore⟩ := h
  · have hquiet (segments : List (List Char)) :
        (segments ++ [[]]).filterMap partOf? = segments.filterMap partOf? := by
      simp [partOf?]
    have hmore : more ++ [[]] ≠ [] := by simp
    rw [List.cons_append] at hpath
    rw [parts_eq_of_splitOn hpath, if_neg hmore, ← List.cons_append, hquiet, hquiet]
  · rw [parts_eq_of_splitOn hpath]
    by_cases hfirst : first = []
    · have hmore : more ≠ [] := by simpa [hfirst] using hmore
      rw [if_pos hfirst, if_pos hfirst, if_neg hmore]
    · rw [if_neg hfirst, if_neg hfirst]

/-- What the segments of a relative path say comes behind the parts of the path before it. -/
theorem parts_join_relative (hpath : path ≠ "") {rest : String} (h : isAbsolute rest = false) :
    parts (join path rest) = parts path ++ (rest.toList.splitOn '/').filterMap partOf? := by
  obtain ⟨before, hjoin, hbefore⟩ := exists_splitOn_join path h
  cases before with
  | nil =>
    obtain hempty | ⟨hempty, -⟩ := hbefore
    · exact absurd (eq_empty_of_splitOn hempty) hpath
    · exact absurd hempty (List.splitOn_ne_nil _ _)
  | cons first more =>
    rw [List.cons_append] at hjoin
    rw [parts_eq_of_splitOn hjoin, parts_eq_of_before hbefore]
    by_cases hfirst : first = []
    · simp [hfirst]
    · simp only [if_neg hfirst, ← List.cons_append, List.filterMap_append, List.append_assoc]

theorem IsName.parts_eq (h : IsName name) : parts name = [.name name] := by
  rw [parts_eq_of_splitOn h.splitOn_eq, List.filterMap_cons_some h.partOf?_eq]
  obtain ⟨-, hempty, hdot, -⟩ := h
  simp [hempty, hdot]

theorem parts_join (path : String) (h : IsName name) :
    parts (join path name) = parts path ++ [.name name] := by
  by_cases hpath : path = ""
  · have hjoin : join "" name = name := by simp [join, h.isAbsolute]
    rw [hpath, hjoin, h.parts_eq]
    rfl
  · rw [parts_join_relative hpath h.isAbsolute, h.splitOn_eq, List.filterMap_cons_some h.partOf?_eq]
    rfl

/-- A path without a name among its parts does not end in it. -/
theorem getD_fileName?_ne (h : IsName name) (hpath : .name name ∉ parts path) :
    (fileName? path).getD path ≠ name := by
  unfold fileName?
  split
  · rename_i text hlast
    rintro rfl
    exact hpath (List.mem_of_getLast? hlast)
  · rw [Option.getD_none]
    rintro rfl
    exact hpath (by simp [h.parts_eq])

/-- A name is among the parts of a longer path if it is what the path has been made longer by. -/
theorem mem_parts_join {other : String} (h : IsName name) (hpath : .name other ∉ parts path) :
    .name other ∈ parts (join path name) ↔ name = other := by
  rw [parts_join path h, List.mem_append, List.mem_singleton, Part.name.injEq, or_iff_right hpath,
    eq_comm]

theorem isAbsolute_join (path : String) (h : IsName name) :
    isAbsolute (join path name) = isAbsolute path := by
  have hname := h.isAbsolute
  rw [join, if_neg (by simp [hname])]
  cases hpath : path.toList with
  | nil =>
    obtain rfl : path = "" := by simpa using hpath
    simpa [isAbsolute] using hname
  | cons c cs =>
    split <;> simp [isAbsolute, hpath]

end Path

namespace Entry

variable {e : Entry} {skip : String → Bool} {path file skipped : String}

/-- The entries whose names are text. -/
def textEntries (entries : List (FileName × Entry)) : List (String × Entry) :=
  entries.filterMap fun entry =>
    match entry.1 with
    | .text name => some (name, entry.2)
    | .bytes .. => none

theorem lookup_text (entries : List (FileName × Entry)) (name : String) :
    entries.lookup (.text name) = (textEntries entries).lookup name := by
  induction entries with
  | nil => rfl
  | cons entry entries ih =>
    obtain ⟨key, e⟩ := entry
    cases key with
    | bytes bytes noText =>
      have hkey : (FileName.text name == .bytes bytes noText) = false := by simp
      simpa [textEntries, List.lookup_cons, hkey] using ih
    | text text =>
      by_cases h : name = text
      · simp [textEntries, h]
      · have hkey : (FileName.text name == .text text) = false := by simpa using h
        have hname : (name == text) = false := by simpa using h
        simpa [textEntries, List.lookup_cons, hkey, hname] using ih

theorem mem_of_lookup {entries : List (String × Entry)} {name : String}
    (h : entries.lookup name = some e) : (name, e) ∈ entries := by
  obtain ⟨_, _, rfl, -⟩ := List.lookup_eq_some_iff.1 h
  exact List.mem_append_right _ List.mem_cons_self

/-- In no directory two entries have the same text for a name, and each of these texts is one that
a name can have. -/
inductive IsProper : Entry → Prop
  | file {bytes : ByteArray} {executable : Bool} : IsProper (.file bytes executable)
  | link {target : List String} : IsProper (.link target)
  | directory {entries : List (FileName × Entry)}
      (distinct : ((textEntries entries).map (·.1)).Nodup)
      (names : ∀ entry ∈ textEntries entries, Path.IsName entry.1)
      (children : ∀ entry ∈ textEntries entries, IsProper entry.2) : IsProper (.directory entries)

/-- A walk from a path comes to a file, through directories only and by names that are text. It
opens the directories on the way by their paths, so none of these may be longer than the system
allows. -/
inductive Reaches : Entry → String → String → Prop
  | here {bytes : ByteArray} {executable : Bool} {path : String} :
      Reaches (.file bytes executable) path path
  | enter {entries : List (FileName × Entry)} {entry : String × Entry} {path file : String}
      (short : path.utf8ByteSize ≤ longestPath) (mem : entry ∈ textEntries entries)
      (below : Reaches entry.2 (Path.join path entry.1) file) :
      Reaches (.directory entries) path file

theorem Reaches.ne_link (h : e.Reaches path file) (target : List String) : e ≠ .link target := by
  rintro rfl
  cases h

/-- The parts of a path stand before those of what is below it. -/
theorem Reaches.isPrefix_parts (h : e.Reaches path file) (hproper : e.IsProper) :
    Path.parts path <+: Path.parts file := by
  induction h with
  | here => exact List.prefix_rfl
  | enter _ hmem _ ih =>
    cases hproper with
    | directory _ hnames hchildren =>
      have hbelow := ih (hchildren _ hmem)
      rw [Path.parts_join _ (hnames _ hmem)] at hbelow
      exact (List.prefix_append _ _).trans hbelow

theorem IsProper.at? {found : Entry} {place : List String} (h : e.IsProper)
    (hat : e.at? place = some found) : found.IsProper := by
  induction place generalizing e with
  | nil =>
    cases hat
    exact h
  | cons name rest ih =>
    cases h with
    | file => cases hat
    | link => cases hat
    | directory _ _ hchildren =>
      rw [Entry.at?, Option.bind_eq_some_iff] at hat
      obtain ⟨child, hlookup, hrest⟩ := hat
      rw [lookup_text] at hlookup
      exact ih (hchildren _ (mem_of_lookup hlookup)) hrest

theorem files_directory (skip : String → Bool) (path : String)
    (entries : List (FileName × Entry)) :
    (directory entries).files skip path =
      if longestPath < path.utf8ByteSize then []
      else ((textEntries entries).filter (!skip ·.1)).flatMap fun entry =>
        entry.2.files skip (Path.join path entry.1) := by
  have hentries : filesOfEntries skip path entries =
      ((textEntries entries).filter (!skip ·.1)).flatMap fun entry =>
        entry.2.files skip (Path.join path entry.1) := by
    induction entries with
    | nil => rfl
    | cons entry entries ih =>
      obtain ⟨key, e⟩ := entry
      cases key with
      | bytes => rw [filesOfEntries, ih]; rfl
      | text name =>
        have htext : textEntries ((.text name, e) :: entries) = (name, e) :: textEntries entries :=
          rfl
        rw [filesOfEntries, ih, htext, List.filter_cons]
        cases skip name <;> simp
  rw [files, hentries]

/-- A walk lists the files that it can reach and that do not lie in a skipped directory. -/
theorem mem_files_iff (hproper : e.IsProper) (hpath : .name skipped ∉ Path.parts path) :
    file ∈ e.files (· = skipped) path ↔ e.Reaches path file ∧ .name skipped ∉ Path.parts file := by
  induction hproper generalizing path with
  | file =>
    rw [files, List.mem_singleton]
    constructor
    · rintro rfl
      exact ⟨.here, hpath⟩
    · rintro ⟨hreaches, -⟩
      cases hreaches
      rfl
  | link => exact iff_of_false List.not_mem_nil fun h => h.1.ne_link _ rfl
  | directory hdistinct hnames hchildren ih =>
    have hinside {entry} (hmem) := Path.mem_parts_join (hnames entry hmem) hpath
    rw [files_directory]
    split
    · rename_i hlong
      refine iff_of_false List.not_mem_nil ?_
      rintro ⟨hreaches, -⟩
      cases hreaches with
      | enter hshort => exact absurd hshort (Nat.not_le.2 hlong)
    · rename_i hshort
      simp only [List.mem_flatMap, List.mem_filter, Bool.not_eq_true', decide_eq_false_iff_not]
      constructor
      · rintro ⟨entry, ⟨hmem, hname⟩, hfile⟩
        obtain ⟨hreaches, hkept⟩ := (ih entry hmem (mt (hinside hmem).1 hname)).1 hfile
        exact ⟨.enter (Nat.not_lt.1 hshort) hmem hreaches, hkept⟩
      · rintro ⟨hreaches, hkept⟩
        cases hreaches with
        | @enter _ entry _ _ _ hmem hbelow =>
          -- A skipped directory would be among the parts of the file.
          have hbefore := (hbelow.isPrefix_parts (hchildren entry hmem)).subset
          have hentry := fun hin => hkept (hbefore hin)
          have hname := mt (hinside hmem).2 hentry
          exact ⟨entry, ⟨hmem, hname⟩, (ih entry hmem hentry).2 ⟨hbelow, hkept⟩⟩

theorem reaches_of_mem_files (hproper : e.IsProper) (h : file ∈ e.files skip path) :
    e.Reaches path file := by
  induction hproper generalizing path with
  | file =>
    rw [files, List.mem_singleton] at h
    rw [h]
    exact .here
  | link => cases h
  | directory _ _ _ ih =>
    rw [files_directory] at h
    split at h
    · cases h
    · rename_i hshort
      obtain ⟨entry, hentry, hfile⟩ := List.mem_flatMap.1 h
      have hmem := List.mem_of_mem_filter hentry
      exact .enter (Nat.not_lt.1 hshort) hmem (ih entry hmem hfile)

/-- A walk lists nothing twice. -/
theorem nodup_files (hproper : e.IsProper) (skip : String → Bool) (path : String) :
    (e.files skip path).Nodup := by
  induction hproper generalizing path with
  | file => exact List.nodup_singleton _
  | link => exact List.nodup_nil
  | @directory entries hdistinct hnames hchildren ih =>
    rw [files_directory]
    split
    · exact List.nodup_nil
    · rw [List.nodup_flatMap]
      refine ⟨fun entry hentry => ih entry (List.mem_of_mem_filter hentry) _, ?_⟩
      refine ((List.pairwise_map.1 hdistinct).filter _).imp_of_mem ?_
      intro a b ha hb hne file hfile hfile'
      -- The name of the entry that a file lies in stands at a fixed place among its parts.
      have hplace {entry : String × Entry} (hmem : entry ∈ textEntries entries)
          (hin : file ∈ entry.2.files skip (Path.join path entry.1)) :
          Path.parts path ++ [.name entry.1] <+: Path.parts file := by
        have hchild := hchildren entry hmem
        rw [← Path.parts_join path (hnames entry hmem)]
        exact (reaches_of_mem_files hchild hin).isPrefix_parts hchild
      have hsame := List.prefix_of_prefix_length_le (hplace (List.mem_of_mem_filter ha) hfile)
        (hplace (List.mem_of_mem_filter hb) hfile') (by simp)
      exact hne (by simpa using hsame.eq_of_length (by simp))

end Entry

namespace Disk

variable {d : Disk} {e : Entry} {path file name skipped : String}

theorem follow_append (d : Disk) (place : List String) (before after : List (List Char)) :
    d.follow place (before ++ after) = (d.follow place before).bind (d.follow · after) := by
  induction before generalizing place with
  | nil => rfl
  | cons segment before ih =>
    simp only [List.cons_append, follow]
    split
    · rfl
    · rfl
    · rfl
    · split_ifs
      · exact ih place
      · exact ih place.dropLast
      · rfl
      · split
        · exact ih _
        · rfl

/-- Segments lead somewhere one part after the other. -/
theorem follow_append_eq_ok_iff {start place : List String} {before after : List (List Char)} :
    d.follow start (before ++ after) = .ok place ↔
      ∃ next, d.follow start before = .ok next ∧ d.follow next after = .ok place := by
  rw [follow_append]
  cases d.follow start before with
  | error => simp [Except.bind]
  | ok next => simp [Except.bind]

theorem locate_eq_ok_iff {place : List String} :
    d.locate path = .ok place ↔
      path.utf8ByteSize ≤ longestPath ∧ hasNul path = false ∧ path ≠ "" ∧
        d.follow (d.start path) (path.toList.splitOn '/') = .ok place := by
  rw [locate, resolve, start]
  cases hnul : hasNul path with
  | true => simp
  | false =>
    by_cases hlong : longestPath < path.utf8ByteSize
    · simp [hlong, Nat.not_le.2 hlong]
    · by_cases hempty : path = ""
      · simp [hempty]
      · simp [hlong, hempty, Nat.not_lt.1 hlong]

/-- What stands at a path is what its segments lead to. -/
theorem entry_eq_ok_iff :
    d.entry path = .ok e ↔
      path.utf8ByteSize ≤ longestPath ∧ hasNul path = false ∧ path ≠ "" ∧
        ∃ place, d.follow (d.start path) (path.toList.splitOn '/') = .ok place ∧
          d.root.at? place = some e := by
  have hentry : d.entry path = .ok e ↔
      ∃ place, d.locate path = .ok place ∧ d.root.at? place = some e := by
    rw [entry]
    cases d.locate path with
    | error => simp [bind, Except.bind]
    | ok place => cases hat : d.root.at? place <;> simp [bind, Except.bind, hat]
  simp only [hentry, locate_eq_ok_iff, and_assoc, exists_and_left]

/-- What is meant by a list of names stands there, or a link that leads to it. -/
theorem exists_at?_of_behind? {way place : List String} (h : d.behind? way = some place) :
    ∃ found, d.root.at? way = some found ∧ (way = place ∨ found = .link place) := by
  rw [behind?] at h
  split at h
  · cases h
  · rename_i target hlink
    split at h
    · cases h
    · cases h
    · exact ⟨_, hlink, .inr (congrArg _ (Option.some.inj h))⟩
  · rename_i found _ hfound
    exact ⟨_, hfound, .inl (Option.some.inj h)⟩

/-- A name as the last segment of a path leads one step down, or behind the link of that name. -/
theorem exists_parent_of_follow {start place : List String} {before : List (List Char)}
    (hname : Path.IsName name) (h : d.follow start (before ++ [name.toList]) = .ok place) :
    ∃ parent, d.follow start before = .ok parent ∧ d.behind? (parent ++ [name]) = some place := by
  obtain ⟨-, hempty, hdot, hup⟩ := hname
  obtain ⟨parent, hparent, hlast⟩ := follow_append_eq_ok_iff.1 h
  simp only [follow, hempty, hdot, hup, or_self, if_false, String.ofList_toList] at hlast
  refine ⟨parent, hparent, ?_⟩
  split at hlast
  · cases hlast
  · cases hlast
  · cases hlast
  · split_ifs at hlast
    split at hlast
    · rename_i next hnext
      rw [hnext, Except.ok.inj hlast]
    · cases hlast

/-- What stands at a path with a name behind it has that name in the directory at the path, or a
link has it. -/
theorem exists_mem_of_entry_join (hname : Path.IsName name) (hpath : path ≠ "")
    (h : d.entry (Path.join path name) = .ok e) :
    ∃ entries found, d.entry path = .ok (.directory entries) ∧
      (name, found) ∈ Entry.textEntries entries ∧ (found = e ∨ ∃ target, found = .link target) := by
  obtain ⟨hshort, hnul, -, place, hfollow, hat⟩ := entry_eq_ok_iff.1 h
  obtain ⟨slash, hjoin⟩ := Path.exists_join_eq path hname.isAbsolute
  obtain ⟨before, hlast, hbefore⟩ := Path.exists_splitOn_join path hname.isAbsolute
  rw [start, Path.isAbsolute_join path hname, ← start, hlast, hname.splitOn_eq] at hfollow
  obtain ⟨parent, hparent, hbehind⟩ := exists_parent_of_follow hname hfollow
  obtain ⟨found, hfound, hmeant⟩ := exists_at?_of_behind? hbehind
  obtain ⟨entries, hentries, hlookup⟩ := Entry.exists_lookup_of_at?_concat hfound
  rw [Entry.lookup_text] at hlookup
  have hsame : found = e ∨ ∃ target, found = .link target := by
    refine hmeant.imp (fun heq => ?_) fun hlink => ⟨place, hlink⟩
    rw [heq, hat] at hfound
    exact (Option.some.inj hfound).symm
  refine ⟨entries, found, entry_eq_ok_iff.2 ⟨?_, ?_, hpath, parent, ?_, hentries⟩,
    Entry.mem_of_lookup hlookup, hsame⟩
  · rw [hjoin] at hshort
    simp only [String.utf8ByteSize_append] at hshort
    omega
  · simp only [hasNul, hjoin, String.toList_append, List.contains_eq_mem, List.mem_append,
      not_or, decide_eq_false_iff_not] at hnul ⊢
    exact hnul.1.1
  · obtain hbefore | ⟨hbefore, -⟩ := hbefore
    · rw [hbefore, follow_append, hparent]
      simp [Except.bind, follow, hentries]
    · rw [hbefore, hparent]

/-- What a path leads to, if it leads anywhere, is what it was made for. -/
structure Leads (d : Disk) (path : String) (e : Entry) : Prop where
  nonempty : path ≠ ""
  unique : ∀ found, d.entry path = .ok found → found = e

/-- A name behind the path of a directory leads to what has that name in it and is no link. -/
theorem Leads.join {entries : List (FileName × Entry)} {entry : String × Entry}
    (h : d.Leads path (.directory entries)) (hproper : (Entry.directory entries).IsProper)
    (hmem : entry ∈ Entry.textEntries entries) (hlink : ∀ target, entry.2 ≠ .link target) :
    d.Leads (Path.join path entry.1) entry.2 := by
  cases hproper with
  | directory hdistinct hnames _ =>
    have hname := hnames entry hmem
    obtain ⟨slash, hjoin⟩ := Path.exists_join_eq path hname.isAbsolute
    refine ⟨by simp [hjoin, h.nonempty], fun found hfound => ?_⟩
    obtain ⟨others, child, hdir, hchild, hfoundIs⟩ :=
      exists_mem_of_entry_join hname h.nonempty hfound
    obtain rfl : others = entries := by simpa using h.unique _ hdir
    rw [← List.inj_on_of_nodup_map hdistinct hchild hmem rfl] at hlink ⊢
    obtain hsame | ⟨target, htarget⟩ := hfoundIs
    · exact hsame.symm
    · exact absurd htarget (hlink target)

/-- The path of a file that a walk comes to leads to it. -/
theorem Leads.reaches (h : d.Leads path e) (hproper : e.IsProper)
    (hreaches : e.Reaches path file) :
    ∃ bytes executable, d.Leads file (.file bytes executable) := by
  induction hreaches with
  | here => exact ⟨_, _, h⟩
  | enter _ hmem hbelow ih =>
    have hentry := h.join hproper hmem hbelow.ne_link
    cases hproper with
    | directory _ _ hchildren => exact ih hentry (hchildren _ hmem)

theorem Leads.isDirectory {bytes : ByteArray} {executable : Bool}
    (h : d.Leads path (.file bytes executable)) : d.isDirectory path = false := by
  rw [Disk.isDirectory]
  cases hentry : d.entry path with
  | error => rfl
  | ok found => rw [h.unique found hentry]

/-- What stands at a path of a proper tree is proper. -/
theorem isProper_of_entry (hroot : d.root.IsProper) (h : d.entry path = .ok e) : e.IsProper := by
  obtain ⟨-, -, -, place, -, hat⟩ := entry_eq_ok_iff.1 h
  exact hroot.at? hat

/-! ## The files below a path -/

/-- A walk from a path comes to a file. -/
def Reaches (d : Disk) (path file : String) : Prop :=
  ∃ e, d.entry path = .ok e ∧ e.Reaches path file

theorem Reaches.isDirectory (hroot : d.root.IsProper) (h : d.Reaches path file) :
    d.isDirectory file = false := by
  obtain ⟨e, hentry, hreaches⟩ := h
  have hleads : d.Leads path e :=
    ⟨(entry_eq_ok_iff.1 hentry).2.2.1, fun found hfound => by simpa [hentry] using hfound.symm⟩
  obtain ⟨bytes, executable, hfile⟩ := hleads.reaches (isProper_of_entry hroot hentry) hreaches
  exact hfile.isDirectory

theorem Reaches.isPrefix_parts (hroot : d.root.IsProper) (h : d.Reaches path file) :
    Path.parts path <+: Path.parts file := by
  obtain ⟨e, hentry, hreaches⟩ := h
  exact hreaches.isPrefix_parts (isProper_of_entry hroot hentry)

/-- From a path without the skipped name a walk lists the files that it can reach, except those
in a skipped directory. -/
theorem mem_filesBelow_iff (hroot : d.root.IsProper) (hskipped : Path.IsName skipped)
    (hpath : .name skipped ∉ Path.parts path) :
    file ∈ d.filesBelow skipped path ↔ d.Reaches path file ∧ .name skipped ∉ Path.parts file := by
  rw [filesBelow, if_neg (Path.getD_fileName?_ne hskipped hpath), Reaches]
  cases hentry : d.entry path with
  | error => simp
  | ok e =>
    have hproper := isProper_of_entry hroot hentry
    rw [(List.mergeSort_perm _ _).mem_iff, Entry.mem_files_iff hproper hpath]
    simp

theorem nodup_filesBelow (hroot : d.root.IsProper) (skipped path : String) :
    (d.filesBelow skipped path).Nodup := by
  rw [filesBelow]
  split
  · exact List.nodup_nil
  · split
    · rename_i e hentry
      rw [(List.mergeSort_perm _ _).nodup_iff]
      exact Entry.nodup_files (isProper_of_entry hroot hentry) _ path
    · exact List.nodup_nil

end Disk

end Sidecheck
