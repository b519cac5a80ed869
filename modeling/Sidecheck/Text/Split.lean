/-!
# Splitting a text at a mark

A text is cut at the first occurrence of a mark, into what stands before it and what stands
behind it. The cut gives the whole text back: `eq_append_of_splitFirst?`.
-/

namespace Sidecheck.Text

/-- What stands before and behind the first occurrence of the mark. -/
def splitFirst? (mark : List Char) : List Char → Option (List Char × List Char)
  | [] => if mark.isEmpty then some ([], []) else none
  | c :: rest =>
    if mark.isPrefixOf (c :: rest) then some ([], (c :: rest).drop mark.length)
    else (splitFirst? mark rest).map fun (before, after) => (c :: before, after)

theorem eq_append_of_splitFirst? {mark cs before after : List Char}
    (h : splitFirst? mark cs = some (before, after)) : cs = before ++ mark ++ after := by
  induction cs generalizing before with
  | nil => simp_all [splitFirst?]
  | cons c rest ih =>
    simp only [splitFirst?] at h
    split at h
    · rename_i hp
      obtain ⟨t, ht⟩ := List.isPrefixOf_iff_prefix.mp hp
      simp only [Option.some.injEq, Prod.mk.injEq] at h
      obtain ⟨rfl, rfl⟩ := h
      simp [← ht]
    · obtain ⟨⟨b, a⟩, hs, he⟩ := Option.map_eq_some_iff.mp h
      simp only [Prod.mk.injEq] at he
      obtain ⟨rfl, rfl⟩ := he
      simpa using ih hs

end Sidecheck.Text
