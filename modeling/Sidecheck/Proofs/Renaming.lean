import Mathlib.Data.List.Basic
import Sidecheck.Watch.Event
/-!
# Renames with a name that is no text

A path means an event by the kind of its notification and by its place in it, and a path that is no
text means none: `Notice.inPlace`. The events of a notification are made from the paths that are
left, so each has moved up by as many places as there are such paths before it. Only a rename with
both names looks at places. There the new name moves to the place of an old one that is no text
and is taken for it: `events_eq_inPlace_iff`, `new_name_unlinked`.
-/

namespace Sidecheck.Notice

variable {disk : Disk} {n : Notice}

/-- What a path at a place among the paths of a notification means. -/
def eventAt? (disk : Disk) (kind : NoticeKind) (place : Nat) (path : String) : Option FileEvent :=
  match kind with
  | .created | .modified | .renamedTo => some (.change path)
  | .removed | .renamedFrom => some (.unlink path)
  | .renamedBoth => some (if place = 0 then .unlink path else .change path)
  | .renamed => some (if disk.isThere path then .change path else .unlink path)
  | .unimportant => none

/-- The events of the paths that are text, each by its place among all paths. -/
def inPlace (disk : Disk) (n : Notice) : List FileEvent :=
  n.paths.zipIdx.filterMap fun (bytes, place) =>
    (String.fromUTF8? bytes).bind (eventAt? disk n.kind place)

/-- A rename with both names whose old name is no text, while another is. -/
def LosesOldName (n : Notice) : Prop :=
  n.kind = .renamedBoth ∧ n.textPaths ≠ [] ∧
    ∃ bytes ∈ n.paths.head?, String.fromUTF8? bytes = none

/-- Where the place of a path says nothing, the paths that are no text are not missed. -/
theorem filterMap_zipIdx_of_placeless {meaning : Nat → String → Option FileEvent}
    {event : String → Option FileEvent} {first : Nat}
    (h : ∀ place ≥ first, ∀ path, meaning place path = event path) (paths : List ByteArray) :
    ((paths.zipIdx first).filterMap fun (bytes, place) =>
      (String.fromUTF8? bytes).bind (meaning place)) =
      (paths.filterMap String.fromUTF8?).filterMap event := by
  induction paths generalizing first with
  | nil => rfl
  | cons bytes paths ih =>
    have hrest := @ih (first + 1) fun place hplace => h place (by omega)
    have hfirst := h first (Nat.le_refl first)
    rw [List.zipIdx_cons]
    cases hbytes : String.fromUTF8? bytes with
    | none =>
      rw [List.filterMap_cons_none (by simp [hbytes]), hrest, List.filterMap_cons_none hbytes]
    | some path =>
      rw [List.filterMap_cons, hrest, List.filterMap_cons_some hbytes, List.filterMap_cons,
        ← hfirst]
      simp only [hbytes, Option.bind_some]

/-- The paths behind the first one are new names, whatever their places are. -/
theorem inPlace_of_renamedBoth {bytes : ByteArray} {others : List ByteArray}
    (hkind : n.kind = .renamedBoth) (hpaths : n.paths = bytes :: others) :
    n.inPlace disk = ((String.fromUTF8? bytes).map .unlink).toList ++
      (others.filterMap String.fromUTF8?).map .change := by
  have hnew : ∀ place ≥ 1, ∀ path, eventAt? disk .renamedBoth place path =
      (some ∘ FileEvent.change) path := by
    intro place hplace path
    have hplace : place ≠ 0 := by omega
    simp [eventAt?, hplace]
  have hothers := filterMap_zipIdx_of_placeless hnew others
  rw [List.filterMap_eq_map] at hothers
  rw [inPlace, hkind, hpaths, List.zipIdx_cons, Nat.zero_add, List.filterMap_cons, hothers]
  cases hbytes : String.fromUTF8? bytes <;> simp [hbytes, eventAt?]

theorem events_of_not_renamedBoth (hkind : n.kind ≠ .renamedBoth) :
    n.events disk = n.inPlace disk := by
  have hplaceless : ∀ place ≥ 0, ∀ path, eventAt? disk n.kind place path =
      eventAt? disk n.kind 0 path := by
    intro place _ path
    cases hk : n.kind with
    | renamedBoth => exact absurd hk hkind
    | _ => rfl
  have hplace : n.inPlace disk = n.textPaths.filterMap (eventAt? disk n.kind 0) :=
    filterMap_zipIdx_of_placeless hplaceless n.paths
  have hmap {event : String → FileEvent}
      (h : ∀ path, eventAt? disk n.kind 0 path = some (event path)) :
      n.textPaths.filterMap (eventAt? disk n.kind 0) = n.textPaths.map event := by
    rw [← List.filterMap_eq_map]
    exact List.filterMap_congr fun path _ => h path
  rw [hplace, events]
  cases hk : n.kind with
  | created | modified | renamedTo | removed | renamedFrom | renamed =>
    rw [← hk, hmap (fun path => by rw [hk]; rfl), hk]
  | renamedBoth => exact absurd hk hkind
  | unimportant => simp [eventAt?]

/-! ## Main theorem -/

/-- A notification's events are those of its paths that are text, each by its place among all
paths, unless the old name of a rename is no text. Then the first of the new names is taken for the
old one. -/
theorem events_eq_inPlace_iff (disk : Disk) (n : Notice) :
    (n.events disk = n.inPlace disk ↔ ¬ n.LosesOldName) ∧
    (n.LosesOldName → ∃ path others, n.textPaths = path :: others ∧
      n.inPlace disk = .change path :: others.map .change ∧
      n.events disk = .unlink path :: others.map .change) := by
  by_cases hkind : n.kind = .renamedBoth
  · cases hpaths : n.paths with
    | nil =>
      have hkept : ¬ n.LosesOldName := by simp [LosesOldName, hpaths]
      simp [hkept, events, inPlace, textPaths, hkind, hpaths]
    | cons bytes others =>
      rw [inPlace_of_renamedBoth hkind hpaths]
      cases hbytes : String.fromUTF8? bytes with
      | some old =>
        have hkept : ¬ n.LosesOldName := by simp [LosesOldName, hpaths, hbytes]
        simp [hkept, events, textPaths, hkind, hpaths, hbytes]
      | none =>
        -- What is left of the paths is what is left of those behind the old name.
        have htext : n.textPaths = others.filterMap String.fromUTF8? := by
          rw [textPaths, hpaths, List.filterMap_cons_none hbytes]
        rw [← htext]
        cases hleft : n.textPaths with
        | nil =>
          have hkept : ¬ n.LosesOldName := fun h => h.2.1 hleft
          simp [hkept, events, hkind, hleft]
        | cons path more =>
          have hlost : n.LosesOldName := ⟨hkind, by simp [hleft], by simp [hpaths, hbytes]⟩
          simp [hlost, events, hkind, hleft]
  · have hkept : ¬ n.LosesOldName := fun h => hkind h.1
    simp [hkept, events_of_not_renamedBoth hkind]

/-- A file whose name was no text gets one that is. The file is there under its new name, but what
is heard is that the new name is gone. -/
theorem new_name_unlinked :
    let n : Notice := ⟨.renamedBoth, [⟨#[0x2f, 0xff]⟩, "/new.ts".toUTF8]⟩
    n.inPlace .empty = [.change "/new.ts"] ∧ n.events .empty = [.unlink "/new.ts"] := by
  decide +kernel

end Sidecheck.Notice
