import Sidecheck.Cli
import Sidecheck.Proofs.Coordination
import Sidecheck.Proofs.History
import Sidecheck.Proofs.Reporting
/-!
# The verdict of a build

A build fails exactly if a check failed or found something that is bad enough. Between the check
and the exit code stand the normal form of the records, the store, the report, the worker's last
event and the coordinator's sums. None of them loses a finding: every diagnostic has a level
(`isSome_severity_of_mem_normalizeAll`), the store keeps every one of them
(`Store.flatten_ofList_perm`), so a worker tells all of them (`told_build_of_ok`), and a sum is not
zero if one of its terms is not (`isFailure_ofEvents`). `build_verdict` is the whole way.
-/

namespace Sidecheck

/-! ## Every diagnostic has a level -/

theorem CompilerRecord.isSome_severity {r : CompilerRecord} {d : Diagnostic}
    (h : r.normalize = .ok d) : d.severity.isSome = true := by
  unfold normalize at h
  split at h
  · cases h
  · obtain rfl := Except.ok.inj h
    split <;> rfl

theorem LintMessage.isSome_severity {m : LintMessage} {file source : String} {d : Diagnostic}
    (h : m.diagnostic? file source = some d) : d.severity.isSome = true := by
  obtain ⟨severity, _, rfl⟩ := Option.map_eq_some_iff.1 h
  cases m.location? <;> rfl

theorem StyleWarning.isSome_severity {w : StyleWarning} {file : Option String} {css : String}
    {d : Diagnostic} (h : w.diagnostic? file css = some d) : d.severity.isSome = true := by
  obtain ⟨severity, _, rfl⟩ := Option.map_eq_some_iff.1 h
  rfl

namespace Record

theorem isSome_severity_of_normalize {disk : Disk} {r : Record} {ds : List Diagnostic}
    (h : r.normalize disk = .ok ds) : ∀ d ∈ ds, d.severity.isSome = true := by
  intro d hd
  cases r with
  | compiler r =>
    cases hr : r.normalize with
    | error e => simp [normalize, hr, Except.map] at h
    | ok found =>
      simp only [normalize, hr, Except.map, Except.ok.injEq] at h
      subst h
      obtain rfl := List.mem_singleton.1 hd
      exact CompilerRecord.isSome_severity hr
  | lint r =>
    obtain rfl := Except.ok.inj h
    obtain ⟨m, _, hm⟩ := List.mem_filterMap.1 hd
    exact LintMessage.isSome_severity hm
  | style r =>
    obtain rfl := Except.ok.inj h
    obtain ⟨w, _, hw⟩ := List.mem_filterMap.1 hd
    exact StyleWarning.isSome_severity hw
  | server r =>
    simp only [normalize, ServerRecord.normalize] at h
    split at h
    · cases h
    · split at h
      · cases h
      · obtain rfl := Except.ok.inj h
        obtain ⟨_, _, rfl⟩ := List.mem_map.1 hd
        rfl

theorem isSome_severity_of_mem_normalizeAll {disk : Disk} {records : List Record} {d : Diagnostic}
    (h : d ∈ normalizeAll disk records) : d.severity.isSome = true := by
  obtain ⟨r, _, hd⟩ := List.mem_flatMap.1 h
  split at hd
  · rename_i ds hds
    exact isSome_severity_of_normalize hds d hd
  · cases hd

end Record

/-! ## What a worker tells -/

namespace Worker

variable {c : Context} {runner : Runner}

/-- A check that failed is all that its worker has to tell. -/
theorem told_build_of_error (disk : Disk) {e : CheckError}
    (h : runner.checkProject c.root = .error e) :
    told (build c disk runner) = [.failed c.checker e.message] := by
  rw [build, told_append, told_map_ran, List.nil_append,
    Session.checkAll_of_error (buildSession c) disk h]
  rfl

/-- Without a list of levels, everything that a full check has found is shown. -/
theorem kept_buildSession (disk : Disk) (records : List Record) :
    (buildSession c).reporter.kept (.ofList (Record.normalizeAll disk records)) =
      (Store.ofList (Record.normalizeAll disk records)).flatten := by
  refine Reporter.filter_wants_eq_self rfl fun d hd => ?_
  exact Record.isSome_severity_of_mem_normalizeAll
    ((Store.flatten_ofList_perm _).mem_iff.1 hd)

/-- Otherwise the worker tells every diagnostic, then how many errors and warnings there were, for
the terminal and for the verdict. -/
theorem told_build_of_ok (disk : Disk) {records : List Record}
    (h : runner.checkProject c.root = .ok records) :
    ∃ shown : List Diagnostic, shown.Perm (Record.normalizeAll disk records) ∧
      let summary : Summary :=
        { errors := (Record.normalizeAll disk records).countP (·.severity = some .error)
          warnings := (Record.normalizeAll disk records).countP (·.severity = some .warning) }
      told (build c disk runner) =
        shown.map (fun d => .console (d.block c.color)) ++
          [.console (summary.line c.checker c.color), .finished c.checker summary] := by
  have hperm := Store.flatten_ofList_perm (Record.normalizeAll disk records)
  refine ⟨_, hperm, ?_⟩
  have hshows := (buildSession c).reporter.shows_report (.ofList (Record.normalizeAll disk records))
  have htold : told (build c disk runner) =
      eventsOf ((buildSession c).reporter.report (.ofList (Record.normalizeAll disk records))) ++
        [.finished c.checker
          ((buildSession c).reporter.report
            (.ofList (Record.normalizeAll disk records))).summary] := by
    rw [build, told_append, told_map_ran, List.nil_append,
      Session.checkAll_of_ok (buildSession c) disk h]
    exact told_map_told _
  rw [htold]
  -- Of the report no more is needed than what it shows.
  generalize (buildSession c).reporter.report
    (.ofList (Record.normalizeAll disk records)) = x at hshows ⊢
  obtain ⟨hlines, hpayload, herrors, hwarnings, -, -⟩ := hshows
  rw [kept_buildSession] at hlines herrors hwarnings
  rw [hperm.countP_eq] at herrors hwarnings
  have hsummary : x.summary =
      { errors := (Record.normalizeAll disk records).countP (·.severity = some .error)
        warnings := (Record.normalizeAll disk records).countP (·.severity = some .warning) } := by
    rw [← herrors, ← hwarnings]
  rw [eventsOf, hlines, hpayload, ← hsummary]
  simp [buildSession]

end Worker

/-! ## What the coordinator makes of it -/

namespace WorkerEvent

/-- The event makes a build fail, in which warnings do so if it is strict. -/
def Condemns (strict : Bool) : WorkerEvent → Prop
  | .failed .. => True
  | .finished _ summary => 0 < summary.errors ∨ (strict = true ∧ 0 < summary.warnings)
  | .console _ | .overlay _ => False

end WorkerEvent

namespace BuildOutcome

theorem isFailure_iff {o : BuildOutcome} {strict : Bool} :
    o.isFailure strict = true ↔
      0 < o.errors ∨ (strict = true ∧ 0 < o.warnings) ∨ o.failed ≠ [] ∨ 0 < o.missing := by
  simp [isFailure, or_assoc]

end BuildOutcome

namespace Coordinator

/-- A sum of summaries is not zero if one of its terms is not. -/
theorem sum_summaries_pos_iff (events : List WorkerEvent) (f : Summary → Nat) :
    0 < ((events.filterMap (·.summary?)).map f).sum ↔
      ∃ checker summary, .finished checker summary ∈ events ∧ 0 < f summary := by
  rw [List.sum_pos_iff_exists_pos_nat]
  constructor
  · rintro ⟨n, hn, hpos⟩
    obtain ⟨summary, hsummary, rfl⟩ := List.mem_map.1 hn
    obtain ⟨e, he, hes⟩ := List.mem_filterMap.1 hsummary
    cases e with
    | finished checker s =>
      obtain rfl := Option.some.inj hes
      exact ⟨checker, s, he, hpos⟩
    | console _ | overlay _ | failed _ _ => cases hes
  · rintro ⟨checker, summary, he, hpos⟩
    exact ⟨f summary, List.mem_map.2 ⟨summary, List.mem_filterMap.2 ⟨_, he, rfl⟩, rfl⟩, hpos⟩

/-- If no worker is missing, a build fails exactly because of an event. -/
theorem isFailure_ofEvents {events : List WorkerEvent} {strict : Bool} :
    (Build.ofEvents events 0).outcome.isFailure strict = true ↔ ∃ e ∈ events, e.Condemns strict := by
  rw [BuildOutcome.isFailure_iff]
  simp only [Build.ofEvents, sum_summaries_pos_iff, Nat.lt_irrefl, or_false]
  constructor
  · rintro (⟨checker, summary, he, hpos⟩ | ⟨hstrict, checker, summary, he, hpos⟩ | hfailed)
    · exact ⟨_, he, .inl hpos⟩
    · exact ⟨_, he, .inr ⟨hstrict, hpos⟩⟩
    · obtain ⟨checker, hchecker⟩ := List.exists_mem_of_ne_nil _ hfailed
      obtain ⟨e, he, hfailure⟩ := List.mem_filterMap.1 hchecker
      cases e with
      | failed _ _ => exact ⟨_, he, trivial⟩
      | console _ | overlay _ | finished _ _ => cases hfailure
  · rintro ⟨e, he, hcondemns⟩
    cases e with
    | console _ | overlay _ => exact hcondemns.elim
    | failed checker reason =>
      have hmem : checker ∈ events.filterMap (·.failure?) := List.mem_filterMap.2 ⟨_, he, rfl⟩
      exact .inr (.inr (List.ne_nil_of_mem hmem))
    | finished checker summary =>
      rcases hcondemns with hpos | ⟨hstrict, hpos⟩
      · exact .inl ⟨checker, summary, he, hpos⟩
      · exact .inr (.inl ⟨hstrict, checker, summary, he, hpos⟩)

end Coordinator

/-! ## The verdict -/

/-- The result of a check makes a build fail, in which warnings do so if it is strict. -/
def BreaksBuild (strict : Bool) (disk : Disk) : CheckResult → Prop
  | .error _ => True
  | .ok records => ∃ d ∈ Record.normalizeAll disk records,
      d.severity = some .error ∨ (strict = true ∧ d.severity = some .warning)

/-- A worker tells something that makes a build fail exactly if its check's result does. -/
theorem Worker.exists_condemns_iff (c : Worker.Context) (disk : Disk) (runner : Runner)
    (strict : Bool) :
    (∃ e ∈ told (build c disk runner), e.Condemns strict) ↔
      BreaksBuild strict disk (runner.checkProject c.root) := by
  cases h : runner.checkProject c.root with
  | error e => simp [told_build_of_error disk h, WorkerEvent.Condemns, BreaksBuild]
  | ok records =>
    obtain ⟨shown, -, htold⟩ := told_build_of_ok (c := c) disk h
    simp only at htold
    constructor
    · rintro ⟨e, he, hcondemns⟩
      rw [htold, List.mem_append] at he
      rcases he with he | he
      · obtain ⟨d, _, rfl⟩ := List.mem_map.1 he
        exact hcondemns.elim
      · simp only [List.mem_cons, List.not_mem_nil, or_false] at he
        rcases he with rfl | rfl
        · exact hcondemns.elim
        · rcases hcondemns with hpos | ⟨hstrict, hpos⟩
          · obtain ⟨d, hd, hsev⟩ := List.countP_pos_iff.1 hpos
            exact ⟨d, hd, .inl (by simpa using hsev)⟩
          · obtain ⟨d, hd, hsev⟩ := List.countP_pos_iff.1 hpos
            exact ⟨d, hd, .inr ⟨hstrict, by simpa using hsev⟩⟩
    · rintro ⟨d, hd, hsev⟩
      refine ⟨_, by rw [htold]; exact List.mem_append_right _ (.tail _ (.head _)), ?_⟩
      rcases hsev with hsev | ⟨hstrict, hsev⟩
      · exact .inl (List.countP_pos_iff.2 ⟨d, hd, by simpa using hsev⟩)
      · exact .inr ⟨hstrict, List.countP_pos_iff.2 ⟨d, hd, by simpa using hsev⟩⟩

namespace Settings

/-- The exit code of a build whose workers' events arrive in a certain order. -/
def buildCode (s : Settings) (arrived : List WorkerEvent) : Nat :=
  Cli.codeOf ((Coordinator.drain s.checkers.length arrived).outcome.isFailure s.failOnWarnings)

/-- What the workers of a build tell, each with the disk and the checker that it finds. -/
def buildStreams (s : Settings) (disk : CheckerSettings → Disk)
    (runner : CheckerSettings → Runner) : List (List WorkerEvent) :=
  s.checkers.map fun c => Worker.told (Worker.build (s.context c) (disk c) (runner c))

/-- Whatever the order of the events, the code says whether the result of a check makes the build
fail. -/
theorem buildCode_ne_zero_iff (s : Settings) (disk : CheckerSettings → Disk)
    (runner : CheckerSettings → Runner) {arrived : List WorkerEvent}
    (h : Interleaving (s.buildStreams disk runner) arrived) :
    s.buildCode arrived ≠ 0 ↔
      ∃ c ∈ s.checkers,
        BreaksBuild s.failOnWarnings (disk c) ((runner c).checkProject s.root) := by
  have hcode (failed : Bool) : Cli.codeOf failed ≠ 0 ↔ failed = true := by
    cases failed <;> simp [Cli.codeOf]
  rw [buildCode, hcode, Coordinator.drain_told_build s.checkers s.context disk runner h,
    Coordinator.isFailure_ofEvents]
  simp only [h.perm.mem_iff, buildStreams, List.mem_flatten, List.mem_map]
  constructor
  · rintro ⟨e, ⟨_, ⟨c, hc, rfl⟩, he⟩, hcondemns⟩
    exact ⟨c, hc, (Worker.exists_condemns_iff (s.context c) _ _ _).1 ⟨e, he, hcondemns⟩⟩
  · rintro ⟨c, hc, hbreaks⟩
    obtain ⟨e, he, hcondemns⟩ :=
      (Worker.exists_condemns_iff (s.context c) (disk c) (runner c) _).2 hbreaks
    exact ⟨e, ⟨_, ⟨c, hc, rfl⟩, he⟩, hcondemns⟩

/-- The program reads the events worker by worker. -/
theorem code_runWith {s : Settings} (hmode : s.mode = .build) (h : s.enableBuild = true)
    (m : Machine) :
    (Cli.runWith s m).code =
      s.buildCode (s.buildStreams (fun _ => m.disk) (·.tool.runner m)).flatten := by
  simp only [Cli.runWith, hmode, Cli.build, h, if_true, buildCode, buildStreams, BuildRun.ofSettings,
    BuildRun.actions, List.flatMap_def, List.map_map]
  rfl

end Settings

/-! ## Main theorem -/

/-- A build fails exactly if a check failed or found an error, or a warning if it is strict:
whatever the order of the workers' events, and so for the program, unless builds are turned off.
Each worker tells that its check failed and nothing else, or all that its check found. -/
theorem build_verdict {s : Settings} (hmode : s.mode = .build) :
    (∀ disk runner arrived, Interleaving (s.buildStreams disk runner) arrived →
      (s.buildCode arrived ≠ 0 ↔ ∃ c ∈ s.checkers,
        BreaksBuild s.failOnWarnings (disk c) ((runner c).checkProject s.root))) ∧
    (s.enableBuild = true → ∀ m, ((Cli.runWith s m).code ≠ 0 ↔ ∃ c ∈ s.checkers,
      BreaksBuild s.failOnWarnings m.disk (c.tool.checkProject m s.root))) ∧
    (s.enableBuild = false → ∀ m,
      (Cli.runWith s m).code = 0 ∧ (Cli.runWith s m).invocations = []) ∧
    ∀ (c : CheckerSettings) (disk : Disk) (runner : Runner),
      match runner.checkProject s.root with
      | .error e =>
        Worker.told (Worker.build (s.context c) disk runner) =
          [.failed c.tool.checker e.message]
      | .ok records =>
        ∃ shown : List Diagnostic, shown.Perm (Record.normalizeAll disk records) ∧
          let summary : Summary :=
            { errors := (Record.normalizeAll disk records).countP (·.severity = some .error)
              warnings := (Record.normalizeAll disk records).countP (·.severity = some .warning) }
          Worker.told (Worker.build (s.context c) disk runner) =
            shown.map (fun d => .console (d.block s.color)) ++
              [.console (summary.line c.tool.checker s.color),
                .finished c.tool.checker summary] := by
  refine ⟨fun disk runner arrived => s.buildCode_ne_zero_iff disk runner, ?_, ?_, ?_⟩
  · intro h m
    rw [Settings.code_runWith hmode h m]
    exact s.buildCode_ne_zero_iff (fun _ => m.disk) (·.tool.runner m) (Interleaving.flatten _)
  · intro h m
    simp [Cli.runWith, hmode, Cli.build, h]
  · intro c disk runner
    split
    · rename_i e h
      exact Worker.told_build_of_error (c := s.context c) disk h
    · rename_i records h
      exact Worker.told_build_of_ok (c := s.context c) disk h

/-- One checker finds nothing and one has a warning: that is bad for a strict build only. -/
theorem build_verdict_warning :
    let tool (checker : Checker) : CheckerSettings :=
      ⟨⟨checker, ⟨"check", []⟩⟩, ["."], none⟩
    let s (strict : Bool) : Settings :=
      { root := "/p", mode := .build, overlay := true, terminal := true, enableBuild := true
        color := false, failOnWarnings := strict, overlayFile := "/p/o", ignore := []
        checkers := [tool .typeScript, tool .esLint] }
    let warning : LintMessage := ⟨none, 1, "unused", none, none, none, none⟩
    let runner (c : CheckerSettings) : Runner :=
      { checker := c.tool.checker
        checkProject := fun _ =>
          if c.tool.checker = .esLint then .ok [.lint ⟨"/p/a", [warning], none⟩] else .ok []
        checkFile := fun _ _ => .ok [] }
    let arrived (strict : Bool) := ((s strict).buildStreams (fun _ => .empty) runner).flatten
    (s true).mode = .build ∧
      Interleaving ((s true).buildStreams (fun _ => .empty) runner) (arrived true) ∧
      (s true).buildCode (arrived true) ≠ 0 ∧ (s false).buildCode (arrived false) = 0 := by
  intro tool s warning runner arrived
  have order (strict : Bool) :=
    Interleaving.flatten ((s strict).buildStreams (fun _ => .empty) runner)
  refine ⟨rfl, order true, ?_, ?_⟩
  · rw [(build_verdict (s := s true) rfl).1 _ _ _ (order true)]
    exact ⟨tool .esLint, by simp [s], _, .head _, .inr ⟨rfl, rfl⟩⟩
  · by_contra hcode
    rw [← ne_eq, (build_verdict (s := s false) rfl).1 _ _ _ (order false)] at hcode
    obtain ⟨c, hc, hbreaks⟩ := hcode
    have hcases : c = tool .typeScript ∨ c = tool .esLint := by simpa [s] using hc
    rcases hcases with rfl | rfl
    · obtain ⟨d, hd, -⟩ : BreaksBuild false .empty (.ok []) := hbreaks
      cases hd
    · obtain ⟨d, hd, hsev⟩ : BreaksBuild false .empty (.ok [.lint ⟨"/p/a", [warning], none⟩]) :=
        hbreaks
      have hone : Record.normalizeAll .empty [.lint ⟨"/p/a", [warning], none⟩] =
          [{ checker := .esLint, message := "unused", file := some "/p/a",
             severity := some .warning }] := rfl
      rw [hone, List.mem_singleton] at hd
      rw [hd] at hsev
      simp at hsev

end Sidecheck
