import Sidecheck.Proofs.Positions
import Sidecheck.Proofs.Walking
/-!
# Paths that contain one another

A path contains another one if the steps that it takes are the first ones of the other: one part
after the other, where a `.` is no step. Where paths are written in the plainest way, with single
slashes between their segments, this can be read off the texts. One text is the other, or goes on
behind it with a slash, exactly if its segments begin with those of the other:
`prefix_iff_intercalate`.
-/

namespace Sidecheck.Path

variable {path : String}

/-- The parts of a path that lead somewhere. -/
def steps (path : String) : List Part := (parts path).filter (· ≠ .here)

/-- The second path is the first one or lies below it. -/
def Contains (dir path : String) : Prop := steps dir <+: steps path

instance (dir path : String) : Decidable (Contains dir path) :=
  inferInstanceAs (Decidable (_ <+: _))

/-! ## Segments -/

section Segments

variable {as bs : List (List Char)}

theorem intercalate_append (has : as ≠ []) (hbs : bs ≠ []) (ha : ∀ segment ∈ as, '/' ∉ segment)
    (hb : ∀ segment ∈ bs, '/' ∉ segment) :
    ['/'].intercalate (as ++ bs) = ['/'].intercalate as ++ '/' :: ['/'].intercalate bs := by
  have hcut : (['/'].intercalate as ++ '/' :: ['/'].intercalate bs).splitOn '/' = as ++ bs := by
    rw [List.splitOn_append_cons_self, List.splitOn_intercalate '/' ha has,
      List.splitOn_intercalate '/' hb hbs]
  rw [← hcut, List.intercalate_splitOn]

/-- A text of segments is that of the first ones, or goes on behind it with a slash. -/
theorem prefix_iff_intercalate (has : as ≠ []) (hbs : bs ≠ [])
    (ha : ∀ segment ∈ as, '/' ∉ segment) (hb : ∀ segment ∈ bs, '/' ∉ segment) :
    as <+: bs ↔ ['/'].intercalate bs = ['/'].intercalate as ∨
      ['/'].intercalate as ++ ['/'] <+: ['/'].intercalate bs := by
  have hcut := List.splitOn_intercalate '/' ha has
  have hcut' := List.splitOn_intercalate '/' hb hbs
  constructor
  · rintro ⟨more, rfl⟩
    by_cases hmore : more = []
    · exact .inl (by rw [hmore, List.append_nil])
    · rw [intercalate_append has hmore ha fun segment hmem =>
        hb segment (List.mem_append_right as hmem)]
      exact .inr ⟨['/'].intercalate more, List.append_assoc ..⟩
  · rintro (heq | ⟨rest, hrest⟩)
    · rw [heq, hcut] at hcut'
      exact hcut' ▸ List.prefix_rfl
    · rw [← hrest, List.append_assoc, List.singleton_append, List.splitOn_append_cons_self,
        hcut] at hcut'
      exact ⟨_, hcut'⟩

end Segments

/-! ## Parts and segments -/

section Parts

variable {segment : List Char} {part : Part}

/-- What a segment says is written as the segment. -/
theorem text_of_partOf?_eq (h : partOf? segment = some part) : part.text.toList = segment := by
  unfold partOf? at h
  split_ifs at h with hblank hup <;> cases h
  · exact hup.symm
  · exact String.toList_ofList

theorem isName_of_partOf?_eq {name : String} (h : partOf? segment = some (.name name))
    (hslash : '/' ∉ segment) : IsName name := by
  have htext : name.toList = segment := text_of_partOf?_eq h
  unfold partOf? at h
  split_ifs at h with hblank hup <;> cases h
  obtain ⟨hempty, hdot⟩ := not_or.1 hblank
  rw [IsName, htext]
  exact ⟨hslash, hempty, hdot, hup⟩

theorem not_mem_filterMap_partOf? (segments : List (List Char)) (h : part = .root ∨ part = .here) :
    part ∉ segments.filterMap partOf? := by
  rw [List.mem_filterMap]
  rintro ⟨segment, -, hpart⟩
  unfold partOf? at hpart
  split_ifs at hpart <;> cases hpart <;> simp at h

/-- What leaves out only beginnings keeps all that segments say. -/
theorem filter_filterMap_partOf? (segments : List (List Char)) {p : Part → Bool}
    (h : ∀ part, part ≠ .root → part ≠ .here → p part = true) :
    (segments.filterMap partOf?).filter p = segments.filterMap partOf? := by
  refine List.filter_eq_self.2 fun part hpart => h part ?_ ?_
  · rintro rfl
    exact not_mem_filterMap_partOf? segments (.inl rfl) hpart
  · rintro rfl
    exact not_mem_filterMap_partOf? segments (.inr rfl) hpart

/-- A path's parts are what its segments say, behind a slash or a `.` at the beginning. -/
theorem exists_head_parts (path : String) : ∃ head : Option Part,
    parts path = head.toList ++ (path.toList.splitOn '/').filterMap partOf? ∧
      (head = none ∨ head = some .here ∨ head = some .root ∧ isAbsolute path = true) := by
  obtain ⟨first, more, hfirst⟩ := List.exists_cons_of_ne_nil (List.splitOn_ne_nil '/' path.toList)
  rw [parts_eq_of_splitOn hfirst, hfirst]
  split_ifs with hempty hmore hdot
  · exact ⟨none, by simp [hempty, hmore, partOf?], .inl rfl⟩
  · have habsolute := (Disk.isAbsolute_iff hfirst (.inl hmore)).2 hempty
    exact ⟨some .root, by simp [hempty, partOf?], .inr (.inr ⟨rfl, habsolute⟩)⟩
  · exact ⟨some .here, rfl, .inr (.inl rfl)⟩
  · exact ⟨none, rfl, .inl rfl⟩

theorem slash_not_mem_text (h : part ∈ parts path) (hroot : part ≠ .root) :
    '/' ∉ part.text.toList := by
  obtain ⟨head, hparts, hhead⟩ := exists_head_parts path
  rw [hparts, List.mem_append, Option.mem_toList] at h
  rcases h with h | h
  · obtain rfl : part = .here := by
      rcases hhead with rfl | rfl | ⟨rfl, -⟩ <;> simp_all
    decide
  · obtain ⟨segment, hsegment, hpart⟩ := List.mem_filterMap.1 h
    rw [text_of_partOf?_eq hpart]
    exact Text.not_mem_of_mem_splitOn hsegment

theorem root_not_mem_tail (path : String) : .root ∉ (parts path).tail := by
  obtain ⟨head, hparts, -⟩ := exists_head_parts path
  have hsegments := not_mem_filterMap_partOf? (path.toList.splitOn '/') (.inl rfl)
  rw [hparts]
  cases head with
  | none => exact mt List.mem_of_mem_tail hsegments
  | some part => exact hsegments

end Parts

/-! ## Relative paths -/

/-- What the segments of a relative path say is where it leads. -/
theorem steps_of_relative (h : isAbsolute path = false) :
    steps path = (path.toList.splitOn '/').filterMap partOf? := by
  obtain ⟨head, hparts, hhead⟩ := exists_head_parts path
  rw [steps, hparts, List.filter_append,
    filter_filterMap_partOf? _ fun _ _ hhere => decide_eq_true hhere]
  rcases hhead with rfl | rfl | ⟨-, habsolute⟩
  · rfl
  · rfl
  · simp [h] at habsolute

/-- A relative path without `..` leads through names, each of which is one of its segments. -/
theorem exists_names_of_relative (h : isAbsolute path = false) (hup : .up ∉ parts path) :
    ∃ names : List String, steps path = names.map .name ∧
      ∀ name ∈ names, IsName name ∧ name.toList ∈ path.toList.splitOn '/' := by
  have hsteps := steps_of_relative h
  have hnames : ∀ part ∈ steps path, ∃ name, part = .name name ∧ IsName name ∧
      name.toList ∈ path.toList.splitOn '/' := by
    intro part hpart
    have hmem := List.mem_of_mem_filter hpart
    rw [hsteps] at hpart
    obtain ⟨segment, hsegment, hsays⟩ := List.mem_filterMap.1 hpart
    cases part with
    | root => exact absurd hpart (not_mem_filterMap_partOf? _ (.inl rfl))
    | here => exact absurd hpart (not_mem_filterMap_partOf? _ (.inr rfl))
    | up => exact absurd hmem hup
    | name name =>
      refine ⟨name, rfl, isName_of_partOf?_eq hsays (Text.not_mem_of_mem_splitOn hsegment), ?_⟩
      rwa [← text_of_partOf?_eq hsays] at hsegment
  refine ⟨(steps path).map Part.text, ?_, ?_⟩
  · have hsame : ∀ part ∈ steps path, Part.name part.text = part := by
      intro part hpart
      obtain ⟨name, rfl, -⟩ := hnames part hpart
      rfl
    have hall := List.map_congr_left hsame
    rw [List.map_id'] at hall
    rw [List.map_map]
    exact hall.symm
  · rw [List.forall_mem_map]
    intro part hpart
    obtain ⟨name, rfl, hname⟩ := hnames part hpart
    exact hname

theorem steps_join (path : String) {rest : String} (h : isAbsolute rest = false) :
    steps (join path rest) = steps path ++ steps rest := by
  by_cases hpath : path = ""
  · have hjoin : join path rest = rest := by simp [join, h, hpath]
    rw [hjoin, hpath]
    rfl
  · rw [steps, parts_join_relative hpath h, List.filter_append, ← steps_of_relative h, ← steps,
      steps, steps, List.filter_filter]
    simp

theorem isPrefix_parts_join (path : String) {rest : String} (h : isAbsolute rest = false) :
    parts path <+: parts (join path rest) := by
  by_cases hpath : path = ""
  · rw [hpath]
    exact List.nil_prefix
  · rw [parts_join_relative hpath h]
    exact List.prefix_append _ _

end Sidecheck.Path
