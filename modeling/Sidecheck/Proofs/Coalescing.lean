import Sidecheck.Proofs.LastWord
import Sidecheck.Watch.Queue
/-!
# What the queue leaves out

An event is fresh if it is not a repetition of the last event of its path. The queue holds the
fresh events of all that were pushed: `pushAll_eq_fresh`. To leave out a repetition does no harm
as long as nothing has contradicted the event that it repeats. But an event of a directory speaks
of the files below it too. So coalescing is invisible exactly for the lists of events in which no
last word on a file is a repetition that was overtaken: `coalescing_invisible_iff`. A file that
changes, goes away with its directory and changes again is lost: `change_lost`.
-/

namespace Sidecheck

namespace FileEvent

theorem same_congr {x y : FileEvent} (h : y.same x = true) (e : FileEvent) :
    y.same e = x.same e := by
  cases x <;> cases y <;> cases e <;> simp_all [same, Path.same]

theorem eq_of_same {x y : FileEvent} (h : x.same y = true) (hp : x.path = y.path) : x = y := by
  cases x <;> cases y <;> simp_all [same, path]

theorem word?_path (e : FileEvent) : (e.word? e.path).isSome = true := by
  cases e <;> simp [word?, path]

end FileEvent

namespace Queue

/-! ## Repetitions -/

/-- The event says the same as the last one of its path. -/
def repeats (before : List FileEvent) (e : FileEvent) : Bool :=
  (lastFor? before e.path).any (·.same e)

theorem lastFor?_append (xs ys : List FileEvent) (path : String) :
    lastFor? (xs ++ ys) path = (lastFor? ys path).or (lastFor? xs path) := by
  simp [lastFor?, List.find?_append]

theorem lastFor?_singleton (x : FileEvent) (path : String) :
    lastFor? [x] path = if Path.same x.path path then some x else none := by
  simp only [lastFor?, List.reverse_singleton, List.find?_singleton]

/-- Texts of the same path have the same last event. -/
theorem lastFor?_congr {p q : String} (h : Path.same p q = true) (es : List FileEvent) :
    lastFor? es p = lastFor? es q := by
  have hp : Path.parts p = Path.parts q := by simpa [Path.same] using h
  simp only [lastFor?, Path.same, hp]

/-- Behind an event, what repeats is decided by that event for its path and by what came before
it for every other path. -/
theorem repeats_append_singleton (before : List FileEvent) (x e : FileEvent) :
    repeats (before ++ [x]) e =
      if Path.same x.path e.path then x.same e else repeats before e := by
  unfold repeats
  rw [lastFor?_append, lastFor?_singleton]
  split <;> simp

/-- A repetition stands for the event that it repeats. -/
theorem repeats_of_repeats {before : List FileEvent} {x e : FileEvent}
    (h : repeats before x = true) (hp : Path.same x.path e.path = true) :
    repeats before e = x.same e := by
  unfold repeats at h ⊢
  rw [← lastFor?_congr hp]
  cases hy : lastFor? before x.path with
  | none => simp [hy] at h
  | some y =>
    rw [hy] at h
    exact FileEvent.same_congr h e

/-- The events that are no repetitions, behind those that came before. -/
def freshFrom (before : List FileEvent) : List FileEvent → List FileEvent
  | [] => []
  | e :: rest =>
    if repeats before e then freshFrom (before ++ [e]) rest
    else e :: freshFrom (before ++ [e]) rest

/-- The events that are no repetitions. -/
def fresh (es : List FileEvent) : List FileEvent := freshFrom [] es

theorem freshFrom_append (before xs ys : List FileEvent) :
    freshFrom before (xs ++ ys) = freshFrom before xs ++ freshFrom (before ++ xs) ys := by
  induction xs generalizing before with
  | nil => simp [freshFrom]
  | cons x xs ih =>
    simp only [List.cons_append, freshFrom]
    split <;> simp [ih]

theorem freshFrom_sublist (before es : List FileEvent) : (freshFrom before es).Sublist es := by
  induction es generalizing before with
  | nil => exact List.Sublist.refl _
  | cons e es ih =>
    simp only [freshFrom]
    split
    · exact (ih _).cons _
    · exact (ih _).cons_cons _

/-- A queue that takes the same events for repetitions as all that came before does is filled
with the fresh events. -/
theorem pushAll_eq_append (es : List FileEvent) :
    ∀ queue before : List FileEvent, (∀ e, repeats queue e = repeats before e) →
      pushAll queue es = queue ++ freshFrom before es := by
  induction es with
  | nil => intro queue before _; simp [pushAll, freshFrom]
  | cons x es ih =>
    intro queue before h
    have hpush : pushAll queue (x :: es) = pushAll (push queue x) es := rfl
    have hcases : push queue x = if repeats queue x then queue else queue ++ [x] := rfl
    rw [hpush, hcases, freshFrom, h x]
    split
    · rename_i hx
      -- The queue lacks `x`, but the event that `x` repeats stands in for it.
      apply ih
      intro e
      rw [repeats_append_singleton]
      split
      · rename_i hp
        exact repeats_of_repeats ((h x).trans hx) hp
      · exact h e
    · rw [ih (queue ++ [x]) (before ++ [x])]
      · simp
      · intro e
        rw [repeats_append_singleton, repeats_append_singleton, h e]

/-- Coalescing keeps the fresh events. -/
theorem pushAll_eq_fresh (es : List FileEvent) : pushAll [] es = fresh es := by
  rw [pushAll_eq_append es [] [] fun _ => rfl, List.nil_append, fresh]

/-! ## Repetitions that matter -/

/-- The last word on a file is a repetition, and the last fresh word before it differs: an event
of another path has contradicted the event that is repeated. -/
def Overtaken (es : List FileEvent) : Prop :=
  ∃ before e after file, es = before ++ e :: after ∧ (e.word? file).isSome = true ∧
    (∀ x ∈ after, x.word? file = none) ∧ repeats before e = true ∧
    lastWord? file (fresh before) ≠ e.word? file

/-- The fresh events before a place and those behind it. -/
theorem fresh_append_cons (before after : List FileEvent) (e : FileEvent) :
    fresh (before ++ e :: after) =
      fresh before ++ (if repeats before e then [] else [e]) ++
        freshFrom (before ++ [e]) after := by
  rw [fresh, freshFrom_append, List.nil_append, freshFrom, fresh]
  split <;> simp

theorem lastWord?_freshFrom {file : String} {after : List FileEvent} (before : List FileEvent)
    (h : ∀ x ∈ after, x.word? file = none) : lastWord? file (freshFrom before after) = none :=
  lastWord?_eq_none_iff.2 fun x hx => h x ((freshFrom_sublist before after).subset hx)

/-- Without the repetitions the last words are the same unless one of them was overtaken. -/
theorem lastWord?_fresh_iff (es : List FileEvent) :
    (∀ file, lastWord? file (fresh es) = lastWord? file es) ↔ ¬ Overtaken es := by
  constructor
  · rintro h ⟨before, e, after, file, rfl, he, hafter, hrep, hne⟩
    apply hne
    have hfile := h file
    rw [lastWord?_of_quiet before e he hafter, fresh_append_cons, if_pos hrep, List.append_nil,
      lastWord?_append, lastWord?_freshFrom _ hafter, Option.none_or] at hfile
    exact hfile
  · intro h file
    cases hw : lastWord? file es with
    | none => exact lastWord?_freshFrom [] (lastWord?_eq_none_iff.1 hw)
    | some w =>
      obtain ⟨before, e, after, rfl, he, hafter⟩ := exists_of_lastWord? hw
      rw [fresh_append_cons, lastWord?_append, lastWord?_freshFrom _ hafter, Option.none_or]
      by_cases hrep : repeats before e = true
      · -- `e` is left out, and the word before it is the same.
        rw [if_pos hrep, List.append_nil, ← he]
        by_contra hne
        exact h ⟨before, e, after, file, rfl, by simp [he], hafter, hrep, hne⟩
      · rw [if_neg hrep, lastWord?_append, lastWord?_singleton, he, Option.some_or]

/-- Only events of the file itself speak of it, and they all write its path in one way. -/
structure OwnWords (file : String) (es : List FileEvent) : Prop where
  path_of_word : ∀ e ∈ es, (e.word? file).isSome = true → e.path = file
  path_of_same : ∀ e ∈ es, Path.same e.path file = true → e.path = file

theorem OwnWords.of_append {file : String} {es fs : List FileEvent} (h : OwnWords file (es ++ fs)) :
    OwnWords file es where
  path_of_word e he := h.path_of_word e (List.mem_append_left _ he)
  path_of_same e he := h.path_of_same e (List.mem_append_left _ he)

/-- The last event of such a file has the last word on it. -/
theorem lastWord?_of_own {file : String} {es : List FileEvent} (h : OwnWords file es) :
    lastWord? file es = (lastFor? es file).bind (·.word? file) := by
  induction es using List.reverseRecOn with
  | nil => rfl
  | append_singleton es e ih =>
    rw [lastWord?_append, lastWord?_singleton, lastFor?_append, lastFor?_singleton,
      ih h.of_append]
    by_cases hp : Path.same e.path file = true
    · have hword := e.word?_path
      rw [h.path_of_same e (by simp) hp] at hword
      obtain ⟨w, hw⟩ := Option.isSome_iff_exists.1 hword
      simp [hp, hw]
    · have hword : e.word? file = none := by
        rw [← Option.not_isSome_iff_eq_none]
        intro hs
        exact hp (by rw [h.path_of_word e (by simp) hs]; simp [Path.same])
      simp [hp, hword]

/-- Such a file loses nothing when repetitions are left out. -/
theorem lastWord?_fresh_of_own {file : String} {es : List FileEvent} (h : OwnWords file es) :
    lastWord? file (fresh es) = lastWord? file es := by
  induction es using List.reverseRecOn with
  | nil => rfl
  | append_singleton es e ih =>
    rw [fresh_append_cons, freshFrom, List.append_nil, lastWord?_append, lastWord?_append,
      lastWord?_singleton, ih h.of_append]
    by_cases hrep : repeats es e = true
    · rw [if_pos hrep]
      cases hw : e.word? file with
      | none => rfl
      | some w =>
        have hpath : e.path = file := h.path_of_word e (by simp) (by simp [hw])
        -- The event that `e` repeats is `e` itself, as the file's path is written in one way.
        unfold repeats at hrep
        rw [hpath] at hrep
        cases hy : lastFor? es file with
        | none => simp [hy] at hrep
        | some y =>
          have hmem : y ∈ es := List.mem_reverse.1 (List.mem_of_find?_eq_some hy)
          have hsame : Path.same y.path file = true :=
            List.find?_some (p := fun e : FileEvent => Path.same e.path file) hy
          have hye : y = e := by
            have hypath := h.path_of_same y (by simp [hmem]) hsame
            rw [hy] at hrep
            exact FileEvent.eq_of_same hrep (hypath.trans hpath.symm)
          rw [lastWord?_of_own h.of_append, hy, Option.bind_some, hye, hw]
          rfl
    · rw [if_neg hrep, lastWord?_singleton]

end Queue

/-! ## Main theorems -/

/-- Handling the queue leaves in every store what handling all events would leave, exactly if no
last word on a file is a repetition that was overtaken. -/
theorem coalescing_invisible_iff (es : List FileEvent) :
    (∀ (s : Session) (disk : Disk) (runner : Runner), s.phase = .watching → ∀ file,
      (s.handleAll disk runner (Queue.pushAll [] es)).store.get file =
        (s.handleAll disk runner es).store.get file) ↔
    ¬ Queue.Overtaken es := by
  rw [Session.same_store_iff, Queue.pushAll_eq_fresh]
  exact Queue.lastWord?_fresh_iff es

/-- A file changes, its directory is removed, and the file changes again: the queue leaves the
second change out, so the file's diagnostics stay removed. -/
theorem change_lost :
    ¬ ∀ (s : Session) (disk : Disk) (runner : Runner), s.phase = .watching → ∀ file,
      (s.handleAll disk runner
        (Queue.pushAll [] [.change "/a/f", .unlink "/a", .change "/a/f"])).store.get file =
      (s.handleAll disk runner [.change "/a/f", .unlink "/a", .change "/a/f"]).store.get file := by
  rw [Session.same_store_iff, Queue.pushAll_eq_fresh]
  intro h
  have hfile := h "/a/f"
  revert hfile
  decide

end Sidecheck
