import Mathlib.Data.List.Induction
import Sidecheck.Proofs.Lookup
import Sidecheck.Session
/-!
# The last word on a file

An event says of a file that it is checked anew, that it is gone, or nothing at all. What the
store holds for the file after any number of events is what the last word on it says:
`get_handleAll`. So two lists of events with the same last words leave the same store, whatever
the store was before and whatever the checks say, and `same_store_iff` shows that no other two
lists do.
-/

namespace Sidecheck

/-- What an event says of a file. -/
inductive Word
  /-- The file is checked anew. -/
  | checked
  /-- The file is gone, perhaps with a directory above it. -/
  | gone
deriving DecidableEq, Repr

/-- What an event says of a file, if it says anything. -/
def FileEvent.word? (file : String) : FileEvent → Option Word
  | .change path => if path = file then some .checked else none
  | .unlink path => if path = file ∨ Store.isUnder path (some file) then some .gone else none

/-- The last word of events on a file. -/
def lastWord? (file : String) (es : List FileEvent) : Option Word :=
  es.reverse.findSome? (·.word? file)

theorem lastWord?_append (file : String) (es fs : List FileEvent) :
    lastWord? file (es ++ fs) = (lastWord? file fs).or (lastWord? file es) := by
  simp [lastWord?, List.findSome?_append]

theorem lastWord?_singleton (file : String) (e : FileEvent) :
    lastWord? file [e] = e.word? file := by
  simp only [lastWord?, List.reverse_singleton, List.findSome?_singleton]

theorem lastWord?_eq_none_iff {file : String} {es : List FileEvent} :
    lastWord? file es = none ↔ ∀ e ∈ es, e.word? file = none := by
  simp [lastWord?, List.findSome?_eq_none_iff]

/-- Where the last word was said. -/
theorem exists_of_lastWord? {file : String} {es : List FileEvent} {w : Word}
    (h : lastWord? file es = some w) :
    ∃ before e after, es = before ++ e :: after ∧ e.word? file = some w ∧
      ∀ x ∈ after, x.word? file = none := by
  obtain ⟨newer, e, older, hrev, he, hnewer⟩ := List.findSome?_eq_some_iff.1 h
  refine ⟨older.reverse, e, newer.reverse, ?_, he, fun x hx => hnewer x (List.mem_reverse.1 hx)⟩
  rw [← List.reverse_reverse es, hrev]
  simp

/-- The last word is that of an event behind which nothing is said of the file. -/
theorem lastWord?_of_quiet {file : String} (before : List FileEvent) (e : FileEvent)
    {after : List FileEvent} (he : (e.word? file).isSome) (h : ∀ x ∈ after, x.word? file = none) :
    lastWord? file (before ++ e :: after) = e.word? file := by
  obtain ⟨w, hw⟩ := Option.isSome_iff_exists.1 he
  rw [← List.singleton_append, lastWord?_append, lastWord?_append, lastWord?_eq_none_iff.2 h,
    lastWord?_singleton, hw]
  rfl

namespace Session

variable (disk : Disk) (runner : Runner)

/-- What is known of a file after the last word on it. -/
def heeding (s : Session) (file : String) : Option Word → List Diagnostic
  | none => s.store.get file
  | some .checked => diagnose disk runner file (runner.perform (.file s.root file))
  | some .gone => []

theorem phase_handle (s : Session) (e : FileEvent) :
    (s.handle disk runner e).session.phase = s.phase := by
  unfold handle
  split <;> rfl

theorem root_handle (s : Session) (e : FileEvent) :
    (s.handle disk runner e).session.root = s.root := by
  unfold handle
  split <;> rfl

/-- An event changes what the store holds for a file as its word on the file says. -/
theorem get_handle (s : Session) (e : FileEvent) (file : String) (h : s.phase = .watching) :
    (s.handle disk runner e).session.store.get file =
      s.heeding disk runner file (e.word? file) := by
  simp only [handle, h]
  cases e with
  | change path =>
    simp only [storeAfter, Store.get_update, FileEvent.word?]
    by_cases hp : path = file
    · subst hp; simp [heeding]
    · simp [heeding, hp, Ne.symm hp]
  | unlink path =>
    simp only [storeAfter, Store.get_removeUnder, Store.get_update, FileEvent.word?]
    by_cases hu : Store.isUnder path (some file) = true
    · simp [heeding, hu]
    · by_cases hp : path = file
      · subst hp; simp [heeding]
      · simp [heeding, hu, hp, Ne.symm hp]

theorem handleAll_append (s : Session) (es fs : List FileEvent) :
    s.handleAll disk runner (es ++ fs) = (s.handleAll disk runner es).handleAll disk runner fs := by
  simp [handleAll]

theorem phase_handleAll (s : Session) (es : List FileEvent) :
    (s.handleAll disk runner es).phase = s.phase := by
  induction es generalizing s with
  | nil => rfl
  | cons e es ih =>
    simp only [handleAll, List.foldl_cons] at ih ⊢
    rw [ih, phase_handle]

theorem root_handleAll (s : Session) (es : List FileEvent) :
    (s.handleAll disk runner es).root = s.root := by
  induction es generalizing s with
  | nil => rfl
  | cons e es ih =>
    simp only [handleAll, List.foldl_cons] at ih ⊢
    rw [ih, root_handle]

/-- What the store holds for a file after events is what the last word on it says. -/
theorem get_handleAll (s : Session) (es : List FileEvent) (file : String)
    (h : s.phase = .watching) :
    (s.handleAll disk runner es).store.get file =
      s.heeding disk runner file (lastWord? file es) := by
  -- From the end: the last event decides, unless it says nothing of the file.
  induction es using List.reverseRecOn with
  | nil => rfl
  | append_singleton es e ih =>
    have hwatching : (s.handleAll disk runner es).phase = .watching := by
      rw [phase_handleAll, h]
    have hstep := get_handle disk runner (s.handleAll disk runner es) e file hwatching
    rw [handleAll_append, lastWord?_append, lastWord?_singleton]
    refine Eq.trans hstep ?_
    cases hw : e.word? file with
    | none => exact ih
    | some w => cases w <;> simp [heeding, root_handleAll]

/-- Some session tells the words on a file apart: it holds something for the file, and the file's
check says something else. -/
theorem exists_heeding_injective (file : String) :
    ∃ (s : Session) (disk : Disk) (runner : Runner),
      s.phase = .watching ∧ Function.Injective (s.heeding disk runner file) := by
  let held : Diagnostic := { checker := .esLint, message := "" }
  let s : Session := {
    root := "/"
    reporter := { checker := .esLint }
    store := Store.empty.update file [held]
    phase := .watching }
  let runner : Runner := {
    checker := .esLint
    checkProject := fun _ => .ok []
    checkFile := fun _ _ => .error (.noCommand .esLint) }
  have hnone : s.heeding .empty runner file none = [held] := by
    simp [heeding, s, Store.get_update]
  have hchecked : s.heeding .empty runner file (some .checked) =
      [failureDiagnostic .esLint file (.noCommand .esLint)] := rfl
  have hgone : s.heeding .empty runner file (some .gone) = [] := rfl
  have hne : held ≠ failureDiagnostic .esLint file (.noCommand .esLint) := by
    intro h
    have hm : "" = Checker.esLint.name ++ " could not check this file" :=
      congrArg Diagnostic.message h
    revert hm
    decide
  refine ⟨s, .empty, runner, rfl, ?_⟩
  rintro (_ | _ | _) (_ | _ | _) h <;> simp_all

/-- Two lists of events leave the same in every store exactly if their last words agree. -/
theorem same_store_iff (es fs : List FileEvent) :
    (∀ (s : Session) (disk : Disk) (runner : Runner), s.phase = .watching → ∀ file,
      (s.handleAll disk runner es).store.get file = (s.handleAll disk runner fs).store.get file) ↔
    ∀ file, lastWord? file es = lastWord? file fs := by
  constructor
  · intro h file
    obtain ⟨s, disk, runner, hs, hinj⟩ := exists_heeding_injective file
    have hfile := h s disk runner hs file
    rw [get_handleAll _ _ _ _ _ hs, get_handleAll _ _ _ _ _ hs] at hfile
    exact hinj hfile
  · intro h s disk runner hs file
    rw [get_handleAll _ _ _ _ _ hs, get_handleAll _ _ _ _ _ hs, h file]

end Session

end Sidecheck
