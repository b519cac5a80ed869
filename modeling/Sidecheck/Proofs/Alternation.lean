import Mathlib.Data.List.Destutter
import Sidecheck.Proofs.Coalescing
/-!
# What the queue keeps of a path

Events of other paths do not matter to whether an event is left out. So what the queue has for a
path is what the path's own events leave when of each run of equal ones only the first is kept:
`filter_fresh`. Changes and unlinks of a path then follow each other in turn, and the last one is of
the kind that was received last (`coalesced_per_path`).
-/

namespace Sidecheck

namespace FileEvent

/-- The event is for a path. -/
def isFor (path : String) (e : FileEvent) : Bool := Path.same e.path path

def isChange : FileEvent → Bool
  | .change _ => true
  | .unlink _ => false

/-- Events for one path differ only in their kind. -/
theorem same_eq_beq {path : String} {x y : FileEvent} (hx : x.isFor path = true)
    (hy : y.isFor path = true) : x.same y = (x.isChange == y.isChange) := by
  have hpath : Path.same x.path y.path = true := by
    simp only [isFor, Path.same, decide_eq_true_eq] at hx hy ⊢
    rw [hx, hy]
  cases x <;> cases y <;> simp_all [same, isChange, FileEvent.path]

end FileEvent

namespace Queue

/-- Of each run of equal events, the first. -/
def firstOfRuns (es : List FileEvent) : List FileEvent := es.destutter fun x y => x.same y = false

theorem lastFor?_append_of_isFor {path : String} {e : FileEvent} (h : e.isFor path = true)
    (before : List FileEvent) : lastFor? (before ++ [e]) path = some e := by
  rw [lastFor?_append, lastFor?_singleton, ← FileEvent.isFor, if_pos h, Option.some_or]

theorem lastFor?_append_of_not_isFor {path : String} {e : FileEvent} (h : ¬ e.isFor path = true)
    (before : List FileEvent) : lastFor? (before ++ [e]) path = lastFor? before path := by
  rw [lastFor?_append, lastFor?_singleton, ← FileEvent.isFor, if_neg h, Option.none_or]

theorem repeats_of_isFor {path : String} {e : FileEvent} (h : e.isFor path = true)
    (before : List FileEvent) : repeats before e = (lastFor? before path).any (·.same e) := by
  rw [repeats, lastFor?_congr h]

/-- Behind an event that says the same as the path's last one, what is fresh of the path are the
first events of the runs that follow. -/
theorem cons_filter_freshFrom {path : String} {before : List FileEvent} {first last : FileEvent}
    (hlast : lastFor? before path = some last) (hsame : first.same last = true)
    (es : List FileEvent) :
    first :: (freshFrom before es).filter (·.isFor path) =
      (es.filter (·.isFor path)).destutter' (fun x y => x.same y = false) first := by
  induction es generalizing before first last with
  | nil => rfl
  | cons e es ih =>
    by_cases he : e.isFor path = true
    · have hrep : repeats before e = first.same e := by
        rw [repeats_of_isFor he, hlast, Option.any_some, FileEvent.same_congr hsame]
      have hnext := lastFor?_append_of_isFor he before
      rw [List.filter_cons_of_pos he, freshFrom, hrep]
      by_cases hfirst : first.same e = true
      · rw [if_pos hfirst, List.destutter'_cons_neg _ (by simp [hfirst]), ih hnext hfirst]
      · have hself : e.same e = true := by rw [FileEvent.same_eq_beq he he, beq_self_eq_true]
        rw [if_neg hfirst, List.destutter'_cons_pos _ (by simpa using hfirst),
          List.filter_cons_of_pos he, ih hnext hself]
    · -- An event of another path stays or goes, but the path's last event is the same.
      have hnext : lastFor? (before ++ [e]) path = some last := by
        rw [lastFor?_append_of_not_isFor he, hlast]
      rw [List.filter_cons_of_neg he, ← ih hnext hsame, freshFrom]
      split
      · rfl
      · rw [List.filter_cons_of_neg he]

theorem filter_freshFrom {path : String} {before : List FileEvent}
    (hlast : lastFor? before path = none) (es : List FileEvent) :
    (freshFrom before es).filter (·.isFor path) = firstOfRuns (es.filter (·.isFor path)) := by
  induction es generalizing before with
  | nil => rfl
  | cons e es ih =>
    by_cases he : e.isFor path = true
    · have hrep : repeats before e = false := by
        rw [repeats_of_isFor he, hlast, Option.any_none]
      have hself : e.same e = true := by rw [FileEvent.same_eq_beq he he, beq_self_eq_true]
      rw [List.filter_cons_of_pos he, firstOfRuns, List.destutter_cons',
        ← cons_filter_freshFrom (lastFor?_append_of_isFor he before) hself, freshFrom, hrep,
        if_neg Bool.false_ne_true, List.filter_cons_of_pos he]
    · have hnext : lastFor? (before ++ [e]) path = none := by
        rw [lastFor?_append_of_not_isFor he, hlast]
      rw [List.filter_cons_of_neg he, ← ih hnext, freshFrom]
      split
      · rfl
      · rw [List.filter_cons_of_neg he]

/-- The fresh events of a path are the first ones of its runs. -/
theorem filter_fresh (es : List FileEvent) (path : String) :
    (fresh es).filter (·.isFor path) = firstOfRuns (es.filter (·.isFor path)) :=
  filter_freshFrom rfl es

/-! ## Kinds in turn -/

theorem getLast?_destutter' {α : Type} [DecidableEq α] (a : α) (l : List α) :
    (l.destutter' (· ≠ ·) a).getLast? = (a :: l).getLast? := by
  induction l generalizing a with
  | nil => rfl
  | cons b l ih =>
    by_cases hab : a = b
    · subst hab
      rw [List.destutter'_cons_neg _ (by simp), ih]
      simp [List.getLast?_cons]
    · rw [List.destutter'_cons_pos _ hab, List.getLast?_cons, ih]
      simp [List.getLast?_cons]

theorem getLast?_destutter {α : Type} [DecidableEq α] (l : List α) :
    (l.destutter (· ≠ ·)).getLast? = l.getLast? := by
  cases l with
  | nil => rfl
  | cons a l => rw [List.destutter_cons', getLast?_destutter']

/-- Of one path, the runs are those of the kinds. -/
theorem map_isChange_firstOfRuns {path : String} (es : List FileEvent) :
    (firstOfRuns (es.filter (·.isFor path))).map (·.isChange) =
      ((es.filter (·.isFor path)).map (·.isChange)).destutter (· ≠ ·) := by
  refine List.map_destutter fun x hx y hy => ?_
  rw [FileEvent.same_eq_beq (List.mem_filter.1 hx).2 (List.mem_filter.1 hy).2]
  simp

/-! ## Main theorem -/

/-- The queue has the events in their order and for each path the first of each run of equal ones.
So changes and unlinks of a path follow each other in turn, and the last one for the path is of the
kind of the last that was received. -/
theorem coalesced_per_path (es : List FileEvent) :
    (pushAll [] es).Sublist es ∧ ∀ path,
      let received := es.filter (·.isFor path)
      let queued := (pushAll [] es).filter (·.isFor path)
      queued = firstOfRuns received ∧
      queued.IsChain (fun x y => x.isChange ≠ y.isChange) ∧
      queued.getLast?.map (·.isChange) = received.getLast?.map (·.isChange) := by
  rw [pushAll_eq_fresh]
  refine ⟨freshFrom_sublist [] es, fun path => ?_⟩
  intro received queued
  have hqueued : queued = firstOfRuns received := filter_fresh es path
  have hkinds : queued.map (·.isChange) = (received.map (·.isChange)).destutter (· ≠ ·) := by
    rw [hqueued, map_isChange_firstOfRuns]
  refine ⟨hqueued, ?_, ?_⟩
  · have hturn : (queued.map (·.isChange)).IsChain (· ≠ ·) := by
      rw [hkinds]
      exact List.isChain_destutter _ _
    exact (List.isChain_map _).1 hturn
  · rw [← List.getLast?_map, ← List.getLast?_map, hkinds, getLast?_destutter]

end Queue

end Sidecheck
