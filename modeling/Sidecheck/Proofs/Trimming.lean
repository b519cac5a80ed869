import Sidecheck.Text.Blank
import Sidecheck.Text.Lines
/-!
# Texts that are trimmed

Trimming takes the blanks at both ends away and nothing else, so a text that it leaves as it is
has none there (`trimStart_trimEnd_of_trim`, `isBlank_of_getLast?`). A return is a blank, so such
a text also ends its line without one: `dropReturn_append`.
-/

namespace Sidecheck.Text

/-- What `dropWhileEnd` takes away is a tail of members that satisfy the predicate. -/
theorem exists_eq_dropWhileEnd_append {α : Type} (p : α → Bool) (xs : List α) :
    ∃ tail, xs = dropWhileEnd p xs ++ tail ∧ ∀ a ∈ tail, p a = true := by
  induction xs with
  | nil => exact ⟨[], rfl, by simp⟩
  | cons x xs ih =>
    obtain ⟨tail, heq, htail⟩ := ih
    unfold dropWhileEnd
    split
    · rename_i hnil
      rw [hnil, List.nil_append] at heq
      split
      · rename_i hx
        refine ⟨x :: xs, rfl, fun a ha => ?_⟩
        rcases List.mem_cons.1 ha with rfl | ha
        · exact hx
        · exact htail a (heq ▸ ha)
      · exact ⟨xs, rfl, heq ▸ htail⟩
    · refine ⟨tail, ?_, htail⟩
      rw [List.cons_append, ← heq]

/-- What is left of a text has no blank at its end. -/
theorem isBlank_of_getLast? {cs : List Char} (h : trimEnd cs = cs) {c : Char}
    (hc : cs.getLast? = some c) : isBlank c = false := by
  unfold trimEnd at h
  induction cs with
  | nil => cases hc
  | cons x xs ih =>
    unfold dropWhileEnd at h
    split at h
    · split at h
      · cases h
      · rename_i hx
        obtain rfl : [] = xs := (List.cons.inj h).2
        simpa [← Option.some.inj hc] using hx
    · rename_i kept hkept
      have hxs : dropWhileEnd isBlank xs = xs := (List.cons.inj h).2
      rw [List.getLast?_cons_of_ne_nil (by rintro rfl; exact hkept hxs)] at hc
      exact ih hxs hc

/-- A text that trimming leaves as it is has no blank at either end. -/
theorem trimStart_trimEnd_of_trim {cs : List Char} (h : trim cs = cs) :
    trimStart cs = cs ∧ trimEnd cs = cs := by
  have hstart : trimStart cs = cs := by
    obtain ⟨tail, htail, -⟩ := exists_eq_dropWhileEnd_append isBlank (trimStart cs)
    refine (List.dropWhile_sublist _).eq_of_length_le ?_
    calc cs.length = (trim cs).length := by rw [h]
      _ ≤ (trimStart cs).length := by
        rw [htail, List.length_append]
        exact Nat.le_add_right ..
  refine ⟨hstart, ?_⟩
  rwa [trim, hstart] at h

/-- There is no return to drop. -/
theorem dropReturn_append {xs ys : List Char} (hx : xs.getLast? ≠ some '\r')
    (hy : trim ys = ys) : dropReturn (xs ++ ys) = xs ++ ys := by
  refine if_neg fun h => ?_
  rw [List.getLast?_append] at h
  cases hlast : ys.getLast? with
  | none =>
    rw [hlast, Option.none_or] at h
    exact hx h
  | some c =>
    rw [hlast, Option.some_or] at h
    have hblank := isBlank_of_getLast? (trimStart_trimEnd_of_trim hy).2 hlast
    rw [Option.some.inj h] at hblank
    exact absurd hblank (by decide)

end Sidecheck.Text
