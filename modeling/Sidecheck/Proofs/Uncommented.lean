import Sidecheck.Proofs.Commenting
/-!
# Texts without comments

A slash stays only if no comment begins with it, and then the character behind it stays too, so
nothing that is taken out brings another slash or a star up to it (`not_opens_removeFrom`). Hence
each character that stays is read as before, in a string or outside, whatever the text is
(`placed_removeFrom`). So what is left has no comments (`IsKept.not_opens`), and its strings are
those of the text, also for a reader that knows nothing of comments (`IsKept.placed_eq_quoted`). The
main theorem is `remove_remove`.
-/

namespace Sidecheck.Comments

/-! ## Where characters stand -/

/-- The characters of a text that goes on from a place, each with its own place. What begins and
ends a comment is part of it, except for the line feed behind a line comment. -/
def placed : Place → List Char → List (Char × Place)
  | _, [] => []
  | .string, c :: rest =>
    (c, .string) :: placed (if c = '"' then .code else if c = '\\' then .escape else .string) rest
  | .escape, c :: rest => (c, .escape) :: placed .string rest
  | .code, '/' :: '/' :: rest => ('/', .line) :: ('/', .line) :: placed .line rest
  | .code, '/' :: '*' :: rest => ('/', .block) :: ('*', .block) :: placed .block rest
  | .code, c :: rest => (c, .code) :: placed (if c = '"' then .string else .code) rest
  | .line, c :: rest =>
    if c = '\n' then (c, .code) :: placed .code rest else (c, .line) :: placed .line rest
  | .block, '*' :: '/' :: rest => ('*', .block) :: ('/', .block) :: placed .code rest
  | .block, c :: rest => (c, .block) :: placed .block rest

/-- The place is in no comment. -/
def Place.isKept : Place → Bool
  | .line | .block => false
  | _ => true

/-- How what follows stands to the strings once the comment is taken out. -/
def Place.quoting : Place → Quoting
  | .string => .inside
  | .escape => .escaped
  | _ => .outside

/-- The characters of a text, each with its place for a reader that looks for strings only. -/
def quoted : Quoting → List Char → List (Char × Place)
  | _, [] => []
  | q, c :: rest => (c, q.place) :: quoted (q.after c) rest

variable {q : Quoting} {c : Char} {cs rest : List Char}

theorem map_fst_placed (place : Place) (cs : List Char) : (placed place cs).map (·.1) = cs := by
  fun_induction placed place cs <;> simp [*]

@[simp] theorem Quoting.quoting_place (q : Quoting) : q.place.quoting = q := by
  cases q <;> rfl

theorem placed_cons (h : q = .outside → ¬ Opens c rest) :
    placed q.place (c :: rest) = (c, q.place) :: placed (q.after c).place rest := by
  cases q with
  | outside =>
    obtain ⟨hline, hblock⟩ := not_opens_iff.1 (h rfl)
    rw [Quoting.place_after_outside, Quoting.place, placed]
    · exact hline
    · exact hblock
  | inside =>
    rw [Quoting.place, placed, Quoting.after]
    split_ifs <;> rfl
  | escaped => rfl

/-! ## What is left -/

/-- Behind a slash that stays, nothing is taken out. -/
theorem not_opens_removeFrom (h : ¬ Opens c rest) :
    ¬ Opens c (removeFrom (Quoting.outside.after c).place rest) := by
  rintro ⟨rfl, hnext⟩
  cases rest with
  | nil => simp [removeFrom] at hnext
  | cons d rest =>
    have hd : d ≠ '/' := by
      rintro rfl
      exact h ⟨rfl, .inl rfl⟩
    have hafter : Quoting.outside.after '/' = .outside := rfl
    rw [hafter, removeFrom_cons fun _ hopens => hd hopens.1] at hnext
    exact h ⟨rfl, hnext⟩

/-- What stays is read as before. -/
theorem placed_removeFrom (place : Place) (cs : List Char) :
    placed place.quoting.place (removeFrom place cs) =
      (placed place cs).filter (·.2.isKept) := by
  fun_induction removeFrom place cs with
  | case1 place => cases place <;> rfl
  | case2 c rest ih =>
    -- In a string every character stays, and only a quote or a backslash says more.
    rw [placed, List.filter_cons_of_pos rfl, ← ih]
    split_ifs <;> simp [placed, Place.quoting, Quoting.place, *]
  | case3 c rest ih => exact congrArg ((c, Place.escape) :: ·) ih
  | case4 rest ih | case5 rest ih | case9 rest ih =>
    -- A comment begins or ends.
    exact ih
  | case6 c rest hline hblock ih =>
    -- Outside strings and comments a character stays.
    have hopens : ¬ Opens c rest := not_opens_iff.2 ⟨hline, hblock⟩
    rw [← Quoting.place_after_outside, Quoting.quoting_place] at ih
    rw [← Quoting.place_after_outside]
    calc placed Quoting.outside.place (c :: removeFrom (Quoting.outside.after c).place rest)
        = (c, .code) :: placed (Quoting.outside.after c).place
            (removeFrom (Quoting.outside.after c).place rest) :=
          placed_cons fun _ => not_opens_removeFrom hopens
      _ = (c, .code) :: (placed (Quoting.outside.after c).place rest).filter (·.2.isKept) := by
          rw [ih]
      _ = (placed Quoting.outside.place (c :: rest)).filter (·.2.isKept) := by
          rw [placed_cons fun _ => hopens]
          rfl
  | case7 rest ih =>
    -- The line feed behind a line comment stays.
    exact congrArg (('\n', Place.code) :: ·) ih
  | case8 c rest hc ih =>
    rw [placed, if_neg hc]
    exact ih
  | case10 c rest hend ih =>
    rw [placed]
    · exact ih
    · exact hend

theorem removeFrom_eq_filter (place : Place) (cs : List Char) :
    removeFrom place cs = ((placed place cs).filter (·.2.isKept)).map (·.1) := by
  rw [← placed_removeFrom, map_fst_placed]

theorem removeFrom_removeFrom (place : Place) (cs : List Char) :
    removeFrom place.quoting.place (removeFrom place cs) = removeFrom place cs := by
  rw [removeFrom_eq_filter place.quoting.place, placed_removeFrom, List.filter_filter]
  simp only [Bool.and_self]
  rw [← removeFrom_eq_filter]

/-! ## Texts of which all stays -/

/-- All characters of the text stay. -/
def IsKept (q : Quoting) (cs : List Char) : Prop := ∀ p ∈ placed q.place cs, p.2.isKept = true

theorem isKept_removeFrom (place : Place) (cs : List Char) :
    IsKept place.quoting (removeFrom place cs) := by
  intro p hp
  rw [placed_removeFrom] at hp
  exact (List.mem_filter.1 hp).2

theorem IsKept.not_opens (h : IsKept .outside (c :: rest)) : ¬ Opens c rest := by
  rintro ⟨rfl, hnext | hnext⟩
  · obtain ⟨behind, rfl⟩ := List.head?_eq_some_iff.1 hnext
    cases h ('/', .line) List.mem_cons_self
  · obtain ⟨behind, rfl⟩ := List.head?_eq_some_iff.1 hnext
    cases h ('/', .block) List.mem_cons_self

theorem IsKept.placed_cons (h : IsKept q (c :: rest)) :
    placed q.place (c :: rest) = (c, q.place) :: placed (q.after c).place rest := by
  refine Comments.placed_cons fun hq => ?_
  subst hq
  exact h.not_opens

theorem IsKept.tail (h : IsKept q (c :: rest)) : IsKept (q.after c) rest := by
  intro p hp
  refine h p ?_
  rw [h.placed_cons]
  exact List.mem_cons_of_mem _ hp

theorem IsKept.placed_eq_quoted (h : IsKept q cs) : placed q.place cs = quoted q cs := by
  induction cs generalizing q with
  | nil => cases q <;> rfl
  | cons c cs ih => rw [h.placed_cons, ih h.tail, quoted]

theorem IsKept.of_append {before : List Char} (h : IsKept q (before ++ cs)) :
    IsKept (before.foldl Quoting.after q) cs := by
  induction before generalizing q with
  | nil => exact h
  | cons c before ih => exact ih h.tail

/-! ## Main theorem -/

/-- Taking comments out of any text leaves a part of it without comments, so that taking them out
again changes nothing: outside its strings no slash is in front of a slash or a star. Its strings
are those of the text. -/
theorem remove_remove (t : List Char) :
    remove (remove t) = remove t ∧ (remove t).Sublist t ∧
      (∀ before c after, remove t = before ++ c :: after → quoting before = .outside →
        ¬ Opens c after) ∧
      quoted .outside (remove t) = (placed .code t).filter (·.2.isKept) := by
  have hkept : IsKept .outside (remove t) := isKept_removeFrom .code t
  refine ⟨removeFrom_removeFrom .code t, removeFrom_sublist .code t, ?_, ?_⟩
  · intro before c after hsplit hquoting
    rw [hsplit] at hkept
    have hbehind : IsKept (quoting before) (c :: after) := hkept.of_append
    rw [hquoting] at hbehind
    exact hbehind.not_opens
  · rw [← hkept.placed_eq_quoted]
    exact placed_removeFrom .code t

/-- A slash in front of a comment and one behind it stay apart, and a string need not end. -/
example : remove "a/ /**//b\"//\\".toList = "a/ /b\"//\\".toList := by
  decide +kernel

end Sidecheck.Comments
