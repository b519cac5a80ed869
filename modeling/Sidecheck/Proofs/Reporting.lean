import Sidecheck.Proofs.Blocks
import Sidecheck.Session
/-!
# What is shown of a store

A report is made from the diagnostics that its reporter wants, `Reporter.kept`. Terminal, overlay
and summary are three views of this one list, and `Report.Shows` says how each of them is read off
it. Every report is such a view (`shows_report`). Its entries for the terminal tell all that is
known of the diagnostics, which `Diagnostic.inOrder_block` has of a single block.

A session reports after each step that changes its store. So from the first full check on, every
event is answered with one report, and that shows the store as the event has left it:
`shown_trace`.
-/

namespace Sidecheck

/-! ## What is wanted -/

namespace Reporter

/-- The reporter shows a diagnostic: it has a level, and that is listed if there is a list. -/
def wants (r : Reporter) (d : Diagnostic) : Bool :=
  match d.severity, r.levels with
  | none, _ => false
  | some _, none => true
  | some level, some levels => levels.contains level

/-- The diagnostics that are shown of a store, in their order. -/
def kept (r : Reporter) (s : Store) : List Diagnostic := s.flatten.filter r.wants

theorem filterLevels_eq_filter_wants (r : Reporter) (ds : List Diagnostic) :
    filterLevels r.levels ds = ds.filter r.wants := by
  refine List.filter_congr fun d _ => ?_
  unfold wants
  cases d.severity <;> cases r.levels <;> simp [Severity.mem_all]

/-- Without a list everything that has a level is shown. -/
theorem filter_wants_eq_self {r : Reporter} (h : r.levels = none) {ds : List Diagnostic}
    (hds : ∀ d ∈ ds, d.severity.isSome = true) : ds.filter r.wants = ds := by
  refine List.filter_eq_self.2 fun d hd => ?_
  obtain ⟨level, hlevel⟩ := Option.isSome_iff_exists.1 (hds d hd)
  simp [wants, hlevel, h]

end Reporter

/-! ## What is shown -/

theorem OverlayDiagnostic.level_ofDiagnostic (d : Diagnostic) (level : Severity) :
    (ofDiagnostic d).level = some level.code ↔ d.severity = some level := by
  cases h : d.severity with
  | none => simp [ofDiagnostic, h]
  | some actual => cases actual <;> cases level <;> simp [ofDiagnostic, h, Severity.code]

/-- A report shows what a reporter wants to be seen of a store. -/
structure Report.Shows (x : Report) (r : Reporter) (s : Store) : Prop where
  /-- One block for each diagnostic, and the summary below them. -/
  lines : x.lines =
    if r.terminal then (r.kept s).map (·.block r.color) ++ [x.summary.line r.checker r.color]
    else []
  /-- One payload with all of them, even if there are none. -/
  payload : x.payload =
    if r.overlay then
      some ⟨Payload.errorEvent, r.checker.id, (r.kept s).map OverlayDiagnostic.ofDiagnostic⟩
    else none
  /-- The summary counts them, whether anything else is shown or not. -/
  errors : x.summary.errors = (r.kept s).countP (·.severity = some .error)
  warnings : x.summary.warnings = (r.kept s).countP (·.severity = some .warning)
  /-- The overlay's levels say the same. -/
  errors_payload : ∀ p, x.payload = some p →
    p.diagnostics.countP (·.level = some 1) = x.summary.errors
  warnings_payload : ∀ p, x.payload = some p →
    p.diagnostics.countP (·.level = some 0) = x.summary.warnings
  /-- A block tells what is known of its diagnostic, the last line what was counted. -/
  told : r.terminal = true →
    List.Forall₂ (fun texts line => Text.InOrder texts line.toList)
      ((r.kept s).map (fun d => (d.told r.color).flatten) ++ [x.summary.told r.checker]) x.lines

namespace Reporter

/-- The overlay's diagnostics of a level are as many as those that are shown. -/
theorem countP_payload {r : Reporter} {s : Store} {p : Payload}
    (h : (r.report s).payload = some p) (level : Severity) :
    p.diagnostics.countP (·.level = some level.code) = countLevel level (r.kept s) := by
  have hp : p = .ofDiagnostics r.checker (r.kept s) := by
    simp only [report, filterLevels_eq_filter_wants] at h
    split at h
    · exact (Option.some.inj h).symm
    · cases h
  rw [hp, Payload.ofDiagnostics, List.countP_map]
  refine List.countP_congr fun d _ => ?_
  simpa using OverlayDiagnostic.level_ofDiagnostic d level

/-- The entries for the terminal tell what there is to tell. -/
theorem told_report {r : Reporter} (h : r.terminal = true) (s : Store) :
    List.Forall₂ (fun texts line => Text.InOrder texts line.toList)
      ((r.kept s).map (fun d => (d.told r.color).flatten) ++
        [(r.report s).summary.told r.checker])
      (r.report s).lines := by
  have hlines : (r.report s).lines = (r.kept s).map (·.block r.color) ++
      [(r.report s).summary.line r.checker r.color] := by
    simp only [report, filterLevels_eq_filter_wants, h, if_true]
    rfl
  rw [hlines]
  refine List.rel_append ?_ (.cons (Summary.inOrder_line ..) .nil)
  rw [List.forall₂_map_left_iff, List.forall₂_map_right_iff, List.forall₂_same]
  exact fun d _ => d.inOrder_block r.color

theorem shows_report (r : Reporter) (s : Store) : (r.report s).Shows r s := by
  have hkept : filterLevels r.levels s.flatten = r.kept s := filterLevels_eq_filter_wants r _
  refine {
    lines := by simp only [report, hkept]
    payload := by simp only [report, hkept]; rfl
    errors := by simp only [report, hkept]; rfl
    warnings := by simp only [report, hkept]; rfl
    errors_payload := fun p hp => ?_
    warnings_payload := fun p hp => ?_
    told := fun h => told_report h s }
  · rw [show (1 : Nat) = Severity.error.code from rfl, countP_payload hp]
    simp only [report, hkept]
    rfl
  · rw [show (0 : Nat) = Severity.warning.code from rfl, countP_payload hp]
    simp only [report, hkept]
    rfl

end Reporter

/-! ## Sessions -/

namespace Session

/-- What a session is asked to do. -/
inductive Request
  | checkAll
  | handle (e : FileEvent)

/-- A request, with the disk and the checker as they are when it is met. -/
structure Call where
  disk : Disk
  runner : Runner
  request : Request

/-- Meets a request. -/
def answer (s : Session) (c : Call) : Step :=
  match c.request with
  | .checkAll => s.checkAll c.disk c.runner
  | .handle e => s.handle c.disk c.runner e

/-- The steps that calls lead to, one after the other. -/
def trace (s : Session) : List Call → List Step
  | [] => []
  | c :: rest => s.answer c :: (s.answer c).session.trace rest

/-- A full check that has a result is reported, and events are waited for. -/
theorem checkAll_of_ok (s : Session) (disk : Disk) {runner : Runner} {records : List Record}
    (h : runner.checkProject s.root = .ok records) :
    s.checkAll disk runner =
      { session := { s with
          store := .ofList (Record.normalizeAll disk records)
          phase := .watching }
        runs := [.project s.root]
        shown := .report (s.reporter.report (.ofList (Record.normalizeAll disk records))) } := by
  simp only [checkAll, Runner.perform, h]
  rfl

theorem checkAll_of_error (s : Session) (disk : Disk) {runner : Runner} {e : CheckError}
    (h : runner.checkProject s.root = .error e) :
    s.checkAll disk runner = ⟨s, [.project s.root], .failure e⟩ := by
  simp only [checkAll, Runner.perform, h]

theorem handle_of_idle {s : Session} (h : s.phase = .idle) (disk : Disk) (runner : Runner)
    (e : FileEvent) : s.handle disk runner e = ⟨s, [], .nothing⟩ := by
  simp only [handle, h]

/-- While events are waited for, each is answered with a report of the store after it. -/
theorem handle_of_watching {s : Session} (h : s.phase = .watching) (disk : Disk) (runner : Runner)
    (e : FileEvent) :
    s.handle disk runner e =
      { session := { s with store := s.storeAfter disk runner e, phase := .watching }
        runs := (s.runFor? e).toList
        shown := .report (s.reporter.report (s.storeAfter disk runner e)) } := by
  rcases s with ⟨root, reporter, store, phase⟩
  obtain rfl : phase = .watching := h
  rfl

/-- A call is the handling of an event. -/
def Call.IsEvent (c : Call) : Prop := ∃ e, c.request = .handle e

/-- While events are waited for, each is answered with one report of the store after it. -/
theorem shown_trace {calls : List Call} (hcalls : ∀ c ∈ calls, c.IsEvent) :
    ∀ s : Session, s.phase = .watching → ∀ step ∈ s.trace calls,
      step.shown = .report (s.reporter.report step.session.store) := by
  induction calls with
  | nil =>
    intro s _ step hstep
    cases hstep
  | cons c calls ih =>
    intro s hs step hstep
    obtain ⟨⟨e, he⟩, hrest⟩ := List.forall_mem_cons.1 hcalls
    have hanswer : s.answer c = s.handle c.disk c.runner e := by rw [answer, he]
    rw [trace, hanswer, handle_of_watching hs] at hstep
    rcases List.mem_cons.1 hstep with rfl | hstep
    · rfl
    · exact ih hrest { s with store := s.storeAfter c.disk c.runner e, phase := .watching } rfl
        step hstep

end Session

end Sidecheck
