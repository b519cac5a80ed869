import Sidecheck.Proofs.LastWord
import Sidecheck.Proofs.Rebuilding
/-!
# Failed checks and what comes after them

A full check that fails changes nothing. The failed check of one file replaces what is stored for
that file by one diagnostic that tells why, and touches nothing else (`Session.FailedOn`): the
entries of all others, `Store.others`, stay as they are and in their order.

Sessions that differ only in what they hold for one file still do so after they have been asked the
same, whatever that was (`AgreeBut.after`). So nothing is left of a failure once the file has been
checked again: `failure_contained`.
-/

namespace Sidecheck

/-! ## The entries of other files -/

namespace Store

variable {s t : Store} {file : String}

/-- All entries but that of a file, in their order. -/
def others (s : Store) (file : String) : List (Option String × List Diagnostic) :=
  s.entries.filter (·.1 ≠ some file)

theorem find_of_others (h : s.others file = t.others file) {key : Option String}
    (hkey : key ≠ some file) : s.find key = t.find key := by
  have hs := find_filter s (· ≠ some file) key
  have ht := find_filter t (· ≠ some file) key
  rw [if_pos (by simpa using hkey)] at hs ht
  rw [← hs, ← ht]
  exact congrArg (fun entries => find ⟨entries⟩ key) h

theorem hasKey_of_others (h : s.others file = t.others file) {key : Option String}
    (hkey : key ≠ some file) : s.hasKey key = t.hasKey key := by
  have hothers (u : Store) : u.hasKey key = (u.others file).any (·.1 = key) := by
    rw [hasKey, others, List.any_filter]
    refine List.any_congr rfl fun entry => ?_
    by_cases hentry : entry.1 = key
    · simp [hentry, hkey]
    · simp [hentry]
  rw [hothers, hothers, h]

/-- A new list for the file is nothing that the others notice. -/
theorem others_update (s : Store) (file : String) (ds : List Diagnostic) :
    (s.update file ds).others file = s.others file := by
  unfold update
  split
  · simp [others]
  · unfold put
    split
    · rw [others, List.filter_map, others]
      refine (List.map_congr_left fun entry hentry => ?_).trans (List.map_id _)
      have hother : entry.1 ≠ some file := by simpa using (List.mem_filter.1 hentry).2
      simp [hother]
    · simp [others]

theorem others_put (h : s.others file = t.others file) {key : Option String}
    (hkey : key ≠ some file) (ds : List Diagnostic) :
    (s.put key ds).others file = (t.put key ds).others file := by
  have hput (u : Store) : (u.put key ds).others file =
      if u.hasKey key then
        (u.others file).map fun entry => (entry.1, if entry.1 = key then ds else entry.2)
      else u.others file ++ [(key, ds)] := by
    unfold put
    split
    · rw [others, List.filter_map]
      rfl
    · simp [others, hkey]
  rw [hput, hput, h, hasKey_of_others h hkey]

/-- What is kept of others is decided entry by entry. -/
theorem others_filter (s : Store) (file : String) (p : Option String → Bool) :
    others ⟨s.entries.filter fun entry => p entry.1⟩ file =
      (s.others file).filter fun entry => p entry.1 := by
  simp only [others, List.filter_filter, Bool.and_comm]

/-- Equal edits keep stores alike that differ in the entry of one file. -/
theorem others_apply (h : s.others file = t.others file) (e : Edit) :
    (e.apply s).others file = (e.apply t).others file := by
  cases e with
  | fill ds => rfl
  | update other ds =>
    by_cases hother : other = file
    · subst hother
      rw [Edit.apply, Edit.apply, others_update, others_update, h]
    · by_cases hds : ds = []
      · subst hds
        have hleft := others_filter s file (· ≠ some other)
        have hright := others_filter t file (· ≠ some other)
        rw [h] at hleft
        exact hleft.trans hright.symm
      · rw [Edit.apply, Edit.apply, update_of_ne_nil s other hds, update_of_ne_nil t other hds]
        exact others_put h (by simpa using hother) ds
  | removeUnder dir =>
    have hleft := others_filter s file (!isUnder dir ·)
    have hright := others_filter t file (!isUnder dir ·)
    rw [h] at hleft
    exact hleft.trans hright.symm

end Store

/-! ## What tells a failure from a finding -/

theorem CheckError.message_ne_empty (e : CheckError) : e.message ≠ "" := by
  have hbegin {a b : String} (h : a ≠ "") : a ++ b ≠ "" :=
    fun heq => h (String.append_eq_empty_iff.1 heq).1
  cases e with
  | noCommand => exact hbegin (by decide)
  | _ => exact hbegin (hbegin (hbegin (by decide)))

/-- No finding of a checker has a conclusion. -/
theorem Record.conclusion_of_mem_diagnostics {disk : Disk} {r : Record} {d : Diagnostic}
    (h : d ∈ r.diagnostics disk) : d.conclusion = "" := by
  obtain ⟨ds, hds, hd⟩ := exists_normalize_of_mem h
  cases r with
  | compiler r =>
    obtain ⟨found, hfound, rfl⟩ := exists_of_normalize_compiler hds
    obtain rfl := List.mem_singleton.1 hd
    unfold CompilerRecord.normalize at hfound
    split at hfound
    · cases hfound
    · cases hfound
      split <;> rfl
  | lint r =>
    cases hds
    obtain ⟨m, -, hm⟩ := List.mem_filterMap.1 hd
    obtain ⟨severity, -, rfl⟩ := Option.map_eq_some_iff.1 hm
    cases m.location? <;> rfl
  | style r =>
    cases hds
    obtain ⟨w, -, hw⟩ := List.mem_filterMap.1 hd
    obtain ⟨severity, -, rfl⟩ := Option.map_eq_some_iff.1 hw
    rfl
  | server r =>
    obtain ⟨path, text, -, -, rfl⟩ := ServerRecord.normalize_eq_ok.1 hds
    obtain ⟨m, -, rfl⟩ := List.mem_map.1 hd
    rfl

theorem Record.conclusion_of_mem_normalizeAll {disk : Disk} {records : List Record}
    {d : Diagnostic} (h : d ∈ normalizeAll disk records) : d.conclusion = "" := by
  rw [normalizeAll_eq_flatMap] at h
  obtain ⟨r, -, hr⟩ := List.mem_flatMap.1 h
  exact conclusion_of_mem_diagnostics hr

namespace Session

variable {s t : Session} {file : String}

/-! ## Sessions that differ in one file -/

/-- Two sessions differ at most in what they hold for a file. -/
structure AgreeBut (file : String) (s t : Session) : Prop where
  root : s.root = t.root
  reporter : s.reporter = t.reporter
  phase : s.phase = t.phase
  others : s.store.others file = t.store.others file

theorem reporter_answer (s : Session) (c : Call) : (s.answer c).session.reporter = s.reporter := by
  obtain ⟨disk, runner, request⟩ := c
  cases request with
  | checkAll =>
    cases hcheck : runner.checkProject s.root with
    | error e => simp [answer, s.checkAll_of_error disk hcheck]
    | ok records => simp [answer, s.checkAll_of_ok disk hcheck]
  | handle e =>
    cases hphase : s.phase with
    | idle => simp [answer, handle_of_idle hphase]
    | watching => simp [answer, handle_of_watching hphase]

/-- Events are waited for from the first full check that has a result on. -/
theorem phase_answer (s : Session) (c : Call) :
    (s.answer c).session.phase =
      match c.request, c.runner.checkProject s.root with
      | .checkAll, .ok _ => .watching
      | _, _ => s.phase := by
  obtain ⟨disk, runner, request⟩ := c
  cases request with
  | checkAll =>
    cases hcheck : runner.checkProject s.root with
    | error e => simp [answer, s.checkAll_of_error disk hcheck]
    | ok records => simp [answer, s.checkAll_of_ok disk hcheck]
  | handle e => exact phase_handle ..

theorem watching_after (h : s.phase = .watching) (calls : List Call) :
    (s.after calls).phase = .watching := by
  induction calls generalizing s with
  | nil => exact h
  | cons c calls ih =>
    refine ih ?_
    rw [phase_answer]
    split
    · rfl
    · exact h

theorem root_after (s : Session) (calls : List Call) : (s.after calls).root = s.root := by
  induction calls generalizing s with
  | nil => rfl
  | cons c calls ih => exact (ih (s.answer c).session).trans (root_answer s c)

theorem others_foldl_apply {s t : Store} (h : s.others file = t.others file)
    (es : List Store.Edit) :
    (es.foldl Store.Edit.apply s).others file = (es.foldl Store.Edit.apply t).others file := by
  induction es generalizing s t with
  | nil => exact h
  | cons e es ih => exact ih (Store.others_apply h e)

/-- A call makes the same edits of both, as these do not depend on the store. -/
theorem AgreeBut.answer (h : AgreeBut file s t) (c : Call) :
    AgreeBut file (s.answer c).session (t.answer c).session where
  root := by rw [root_answer, root_answer, h.root]
  reporter := by rw [reporter_answer, reporter_answer, h.reporter]
  phase := by rw [phase_answer, phase_answer, h.phase, h.root]
  others := by
    have hedits : s.edits c = t.edits c := by
      simp only [edits, h.phase, h.root]
    rw [edits_answer, edits_answer, hedits]
    exact others_foldl_apply h.others _

theorem AgreeBut.after (h : AgreeBut file s t) (calls : List Call) :
    AgreeBut file (s.after calls) (t.after calls) := by
  induction calls generalizing s t with
  | nil => exact h
  | cons c calls ih => exact ih (h.answer c)

/-! ## A failed check of a file -/

/-- What a session that watches does about a file whose check has failed: only the file's own entry
is another one, which tells why, and the report is that of the store with it. -/
structure FailedOn (s : Session) (file : String) (e : CheckError) (step : Step) : Prop where
  runs : step.runs = [.file s.root file]
  shown : step.shown = .report (s.reporter.report step.session.store)
  phase : step.session.phase = .watching
  found : ∃ d, step.session.store.get file = [d] ∧ d.file = some file ∧
    d.severity = some .error ∧ d.conclusion = e.message
  agree : AgreeBut file step.session s
  keys : step.session.store.keys =
    if some file ∈ s.store.keys then s.store.keys else s.store.keys ++ [some file]

theorem failedOn_handle (hs : s.phase = .watching) (disk : Disk) {runner : Runner}
    {e : CheckError} (he : runner.checkFile s.root file = .error e) :
    s.FailedOn file e (s.handle disk runner (.change file)) := by
  have hstore : s.storeAfter disk runner (.change file) =
      s.store.update file [failureDiagnostic runner.checker file e] := by
    simp only [storeAfter, Runner.perform, he, diagnose]
  rw [handle_of_watching hs, hstore]
  refine {
    runs := rfl
    shown := rfl
    phase := rfl
    found := ⟨failureDiagnostic runner.checker file e, ?_, rfl, rfl, rfl⟩
    agree := ⟨rfl, rfl, hs.symm, Store.others_update ..⟩
    keys := ?_ }
  · exact (Store.get_update ..).trans (if_pos rfl)
  · rw [Store.update_of_ne_nil _ _ (List.cons_ne_nil _ _)]
    exact Store.keys_put ..

/-- The call that has a file checked. -/
def recheck (disk : Disk) (runner : Runner) (file : String) : Call :=
  ⟨disk, runner, .handle (.change file)⟩

/-- Whatever is asked of a session that failed on a file, and of the one before: once the file has
been checked again, nothing is left of the failure, and each key has what it would have without. -/
def Recovers (s failed : Session) (file : String) : Prop :=
  ∀ (calls : List Call) (disk : Disk) (runner : Runner) (records : List Record),
    runner.checkFile s.root file = .ok records →
      let again := calls ++ [recheck disk runner file]
      (failed.after again).phase = .watching ∧
        (failed.after again).store.get file = Record.normalizeAll disk records ∧
        (∀ d ∈ failed.store.get file, d ∉ (failed.after again).store.get file) ∧
        (∀ key, (failed.after again).store.find key = (s.after again).store.find key) ∧
        (failed.after again).store.others file = (s.after again).store.others file

/-- The store after a file has been checked again. -/
theorem store_after_recheck (hs : s.phase = .watching) (calls : List Call) (disk : Disk)
    {runner : Runner} {records : List Record}
    (hrecords : runner.checkFile s.root file = .ok records) :
    (s.after (calls ++ [recheck disk runner file])).store =
      (s.after calls).store.update file (Record.normalizeAll disk records) := by
  have hlast : s.after (calls ++ [recheck disk runner file]) =
      ((s.after calls).handle disk runner (.change file)).session := by
    rw [after, List.foldl_append]
    rfl
  rw [hlast, handle_of_watching (watching_after hs calls)]
  simp only [storeAfter, root_after, Runner.perform, hrecords, diagnose]

theorem FailedOn.recovers {step : Step} {e : CheckError} (h : s.FailedOn file e step)
    (hs : s.phase = .watching) : s.Recovers step.session file := by
  intro calls disk runner records hrecords again
  have hfailed := store_after_recheck h.phase calls disk (h.agree.root ▸ hrecords)
  have hplain := store_after_recheck hs calls disk hrecords
  have hagree := h.agree.after again
  have hget : (step.session.after again).store.get file = Record.normalizeAll disk records := by
    rw [hfailed, Store.get_update, if_pos rfl]
  refine ⟨watching_after h.phase again, hget, ?_, ?_, hagree.others⟩
  · -- A finding has no conclusion, and the reason of a failure is never empty.
    obtain ⟨d, hd, -, -, hconclusion⟩ := h.found
    rw [hd, hget, List.forall_mem_singleton]
    intro hmem
    rw [Record.conclusion_of_mem_normalizeAll hmem] at hconclusion
    exact e.message_ne_empty hconclusion.symm
  · intro key
    by_cases hkey : key = some file
    · rw [hfailed, hplain, Store.find_update, Store.find_update, if_pos hkey, if_pos hkey]
    · exact Store.find_of_others hagree.others hkey

/-! ## Main theorem -/

/-- A full check that fails changes nothing and writes nothing. Before the first full check, events
are dropped without a check. And a file whose check fails gets one diagnostic that says so, while
all else stays as it is, until the file is checked again and it is as if the failure had never
been. -/
theorem failure_contained (s : Session) (disk : Disk) (runner : Runner) (file : String)
    (e : CheckError) :
    (runner.checkProject s.root = .error e →
      s.checkAll disk runner = ⟨s, [.project s.root], .failure e⟩) ∧
    (s.phase = .idle → ∀ event, s.handle disk runner event = ⟨s, [], .nothing⟩) ∧
    (s.phase = .watching → runner.checkFile s.root file = .error e →
      s.FailedOn file e (s.handle disk runner (.change file)) ∧
        s.Recovers (s.handle disk runner (.change file)).session file) := by
  refine ⟨s.checkAll_of_error disk, fun hs event => handle_of_idle hs disk runner event, ?_⟩
  intro hs he
  have hfailed := failedOn_handle hs disk he
  exact ⟨hfailed, hfailed.recovers hs⟩

/-- A linter that cannot be started. -/
def broken : Runner where
  checker := .esLint
  checkProject _ := .error (.noCommand .esLint)
  checkFile _ _ := .error (.noCommand .esLint)

/-- A linter that finds nothing. -/
def mended : Runner where
  checker := .esLint
  checkProject _ := .ok []
  checkFile _ _ := .ok []

/-- A linter that cannot be started for a while, during which another file is removed. -/
theorem failure_contained_broken :
    let fresh : Session := { root := "/p", reporter := { checker := .esLint } }
    let held (file : Option String) : Diagnostic := { checker := .esLint, message := "m", file }
    let s : Session := { fresh with
      store := .ofList [held none, held "/p/a", held "/p/b"]
      phase := .watching }
    let failed := (s.handle .empty broken (.change "/p/a")).session
    let again := [⟨.empty, broken, .handle (.unlink "/p/b")⟩] ++ [recheck .empty mended "/p/a"]
    fresh.checkAll .empty broken = ⟨fresh, [.project "/p"], .failure (.noCommand .esLint)⟩ ∧
      fresh.handle .empty broken (.change "/p/a") = ⟨fresh, [], .nothing⟩ ∧
      s.FailedOn "/p/a" (.noCommand .esLint) (s.handle .empty broken (.change "/p/a")) ∧
      failed.store.keys = [none, some "/p/a", some "/p/b"] ∧
      (failed.after again).store.keys = [none] ∧
      ∀ key, (failed.after again).store.find key = (s.after again).store.find key := by
  intro fresh held s failed again
  obtain ⟨hall, hidle, -⟩ :=
    failure_contained fresh .empty broken "/p/a" (.noCommand .esLint)
  obtain ⟨-, -, hwatching⟩ := failure_contained s .empty broken "/p/a" (.noCommand .esLint)
  obtain ⟨hfailed, hrecovers⟩ := hwatching rfl rfl
  obtain ⟨-, -, -, hfind, -⟩ := hrecovers _ .empty mended [] rfl
  exact ⟨hall rfl, hidle rfl _, hfailed, by decide, by decide, hfind⟩

end Session

end Sidecheck
