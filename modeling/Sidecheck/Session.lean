import Sidecheck.Check
import Sidecheck.Report
import Sidecheck.Watch.Event
/-!
# Sessions

A session keeps one checker's diagnostics current. A full check fills the store; from then on
each file event brings the store up to date, and what the store then holds is reported. A step
tells which checks it ran and what it showed.
-/

namespace Sidecheck

/-- How far a session has come. -/
inductive Phase
  /-- No full check has been successful yet. -/
  | idle
  /-- The store holds a full result, and file events are applied to it. -/
  | watching
deriving DecidableEq, Repr

/-- One checker at work on a project. -/
structure Session where
  root : String
  reporter : Reporter
  store : Store := .empty
  phase : Phase := .idle
deriving DecidableEq, Repr

namespace Session

/-- What a step has shown. -/
inductive Shown
  | nothing
  | report (r : Report)
  /-- The full check failed. -/
  | failure (e : CheckError)
deriving DecidableEq, Repr

/-- What a step has led to. -/
structure Step where
  session : Session
  /-- The checks that the step ran. -/
  runs : List CheckRun
  shown : Shown
deriving DecidableEq, Repr

/-- The report of what the store holds. -/
def report (s : Session) : Report := s.reporter.report s.store

/-- Runs the full check. If it fails, the session stays as it was. -/
def checkAll (s : Session) (disk : Disk) (runner : Runner) : Step :=
  let run := CheckRun.project s.root
  match runner.perform run with
  | .error e => ⟨s, [run], .failure e⟩
  | .ok records =>
    let next := { s with
      store := .ofList (Record.normalizeAll disk records)
      phase := .watching }
    ⟨next, [run], .report next.report⟩

/-- The diagnostic in place of those of a file that could not be checked. -/
def failureDiagnostic (checker : Checker) (file : String) (e : CheckError) : Diagnostic where
  checker := checker
  message := checker.name ++ " could not check this file"
  file := some file
  severity := some .error
  conclusion := e.message

/-- The diagnostics of a file, given the result of its check. -/
def diagnose (disk : Disk) (runner : Runner) (file : String) : CheckResult → List Diagnostic
  | .ok records => Record.normalizeAll disk records
  | .error e => [failureDiagnostic runner.checker file e]

/-- The check that an event calls for. What is gone need not be checked. -/
def runFor? (s : Session) : FileEvent → Option CheckRun
  | .change path => some (.file s.root path)
  | .unlink _ => none

/-- The store after an event. A removed directory takes its files with it. -/
def storeAfter (s : Session) (disk : Disk) (runner : Runner) : FileEvent → Store
  | .change path =>
    s.store.update path (diagnose disk runner path (runner.perform (.file s.root path)))
  | .unlink path => ((s.store.update path []).removeUnder path).1

/-- Applies a file event. Before the first full check it is dropped. -/
def handle (s : Session) (disk : Disk) (runner : Runner) (e : FileEvent) : Step :=
  match s.phase with
  | .idle => ⟨s, [], .nothing⟩
  | .watching =>
    let next := { s with store := s.storeAfter disk runner e }
    ⟨next, (s.runFor? e).toList, .report next.report⟩

/-- Applies file events one by one. -/
def handleAll (s : Session) (disk : Disk) (runner : Runner) (es : List FileEvent) : Session :=
  es.foldl (fun s e => (s.handle disk runner e).session) s

end Session

end Sidecheck
