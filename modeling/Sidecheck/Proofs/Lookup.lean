import Sidecheck.Store
/-!
# What the store holds for a file

Each operation of the store, seen through `get`. A file's entry changes when that file is
replaced, or when a directory above it is removed, and at no other time: `get_update` and
`get_removeUnder`. A full check leaves each file with its own diagnostics, in the order in which
they came: `get_ofList`.
-/

namespace Sidecheck.Store

/-! ## Entries by key -/

theorem hasKey_eq_false {s : Store} {key : Option String} (h : s.hasKey key = false) :
    ∀ entry ∈ s.entries, entry.1 ≠ key := by
  simpa [hasKey] using h

/-- In a list without the key, an entry added behind is what the key finds. -/
theorem find_append_new {s : Store} {key : Option String} (ds : List Diagnostic)
    (h : s.hasKey key = false) (other : Option String) :
    find ⟨s.entries ++ [(key, ds)]⟩ other = if other = key then ds else s.find other := by
  by_cases ho : other = key
  · subst ho
    have hnone : s.entries.find? (·.1 = other) = none := by
      simpa [List.find?_eq_none] using hasKey_eq_false h
    simp [find, hnone]
  · simp [find, List.find?_append, ho, Ne.symm ho]

/-- Replacing in place reaches every entry of the key and no other. -/
theorem find_map_replace {s : Store} {key : Option String} (ds : List Diagnostic)
    (h : s.hasKey key = true) (other : Option String) :
    find ⟨s.entries.map fun (k, old) => (k, if k = key then ds else old)⟩ other =
      if other = key then ds else s.find other := by
  rcases s with ⟨entries⟩
  simp only [hasKey, find] at h ⊢
  induction entries with
  | nil => simp at h
  | cons entry rest ih =>
    obtain ⟨k, old⟩ := entry
    simp only [List.map_cons, List.find?_cons]
    by_cases hk : k = other
    · subst hk
      by_cases hkey : k = key <;> simp [hkey]
    · simp only [hk, decide_false]
      by_cases hrest : rest.any (·.1 = key) = true
      · exact ih hrest
      · -- The key is that of the first entry, so it is not the one asked for.
        have hkey : k = key := by
          simp only [List.any_cons, Bool.or_eq_true, decide_eq_true_eq] at h
          exact h.resolve_right hrest
        have hsame : rest.map (fun (k, old) => (k, if k = key then ds else old)) = rest := by
          refine (List.map_congr_left fun e he => ?_).trans (List.map_id _)
          have : e.1 ≠ key := by
            intro heq
            exact hrest (List.any_eq_true.2 ⟨e, he, by simpa using heq⟩)
          simp [this]
        have hother : other ≠ key := fun e => hk (hkey.trans e.symm)
        rw [hsame, if_neg hother]

theorem find_put (s : Store) (key other : Option String) (ds : List Diagnostic) :
    (s.put key ds).find other = if other = key then ds else s.find other := by
  unfold put
  split
  · rename_i h
    exact find_map_replace ds h other
  · rename_i h
    exact find_append_new ds (by simpa using h) other

/-- A filter on keys hides the entries of the keys that fail it. -/
theorem find_filter (s : Store) (p : Option String → Bool) (key : Option String) :
    find ⟨s.entries.filter fun entry => p entry.1⟩ key = if p key then s.find key else [] := by
  rcases s with ⟨entries⟩
  simp only [find, List.find?_filter]
  split
  · rename_i hp
    congr 3
    funext entry
    by_cases he : entry.1 = key <;> simp [he, hp]
  · rename_i hp
    have hnone : entries.find? (fun entry => p entry.1 && decide (entry.1 = key)) = none := by
      rw [List.find?_eq_none]
      intro entry _ h
      simp only [Bool.and_eq_true, decide_eq_true_eq] at h
      exact hp (h.2 ▸ h.1)
    simp [hnone]

/-- Of distinct members, only one of which contributes anything, that one is all. -/
theorem flatMap_eq_of_nodup {α β : Type} [DecidableEq α] {l : List α} (hn : l.Nodup) (a : α)
    {f : α → List β} (h : ∀ x, x ≠ a → f x = []) : l.flatMap f = if a ∈ l then f a else [] := by
  induction l with
  | nil => rfl
  | cons x l ih =>
    obtain ⟨hx, hl⟩ := List.nodup_cons.1 hn
    rw [List.flatMap_cons, ih hl]
    by_cases hxa : x = a
    · subst hxa
      simp [hx]
    · simp [h x hxa, Ne.symm hxa]

/-! ## What each operation leaves under a key -/

theorem find_update (s : Store) (file : String) (ds : List Diagnostic) (key : Option String) :
    (s.update file ds).find key = if key = some file then ds else s.find key := by
  unfold update
  split
  · rename_i h
    have hds : ds = [] := by simpa using h
    have hf := find_filter s (· ≠ some file) key
    simp only [ne_eq, decide_not, Bool.not_eq_eq_eq_not, Bool.not_true, decide_eq_false_iff_not]
      at hf
    by_cases hk : key = some file <;> simpa [hk, hds] using hf
  · exact find_put s (some file) key ds

theorem find_removeUnder (s : Store) (dir : String) (key : Option String) :
    (s.removeUnder dir).1.find key = if isUnder dir key then [] else s.find key := by
  have hf := find_filter s (fun key => !isUnder dir key) key
  cases hu : isUnder dir key <;> simpa [removeUnder, hu] using hf

theorem find_foldl_add (ds : List Diagnostic) (s : Store) (key : Option String) :
    (ds.foldl add s).find key = s.find key ++ ds.filter (·.file = key) := by
  induction ds generalizing s with
  | nil => simp
  | cons d ds ih =>
    rw [List.foldl_cons, ih, add, find_put]
    by_cases h : d.file = key
    · subst h; simp
    · simp [h, Ne.symm h]

theorem find_ofList (ds : List Diagnostic) (key : Option String) :
    (ofList ds).find key = ds.filter (·.file = key) := by
  have hempty : empty.find key = [] := rfl
  rw [ofList, find_foldl_add, hempty, List.nil_append]

/-! ## The diagnostics of a file -/

/-- A file's list is replaced, and only that file's. -/
theorem get_update (s : Store) (file other : String) (ds : List Diagnostic) :
    (s.update file ds).get other = if other = file then ds else s.get other := by
  simpa [get] using find_update s file ds (some other)

/-- A removed directory takes what is below it, and nothing else. -/
theorem get_removeUnder (s : Store) (dir file : String) :
    (s.removeUnder dir).1.get file = if isUnder dir (some file) then [] else s.get file :=
  find_removeUnder s dir (some file)

/-- After a full check a file has its own diagnostics, in their order. -/
theorem get_ofList (ds : List Diagnostic) (file : String) :
    (ofList ds).get file = ds.filter (·.file = some file) :=
  find_ofList ds (some file)

end Sidecheck.Store
