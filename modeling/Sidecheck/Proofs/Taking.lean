import Sidecheck.Proofs.Reporting
import Sidecheck.Worker.Serve
/-!
# What a worker does with an input

`Worker.Takes` has one case for each thing that can come of an input, with what must hold of the
worker before, the worker after it, and everything that was done. `takes_step` says that there is
nothing else; what follows about workers is by cases over it and does not look at the code.
-/

namespace Sidecheck.Worker

variable (w : Worker) (disk : Disk) (runner : Runner)

/-- The worker still takes messages. -/
def hears : Bool := w.isListening && !w.hasEnded

/-- The message cannot follow those that the worker has taken before. -/
inductive Violates : Message → Violation → Prop
  | notConfigured (root : String) (h : w.session? = none) : Violates (.watch root) .notConfigured
  | configuredTwice (overlay terminal : Bool) (h : w.session?.isSome = true) :
    Violates (.configure overlay terminal) .configuredTwice
  | watchedTwice (root : String) (h : w.session?.isSome = true)
    (hwatch : w.watcher?.isSome = true) : Violates (.watch root) .watchedTwice

/-- What can come of an input: the worker after it, and what it did. -/
inductive Takes : Input → Worker → List Action → Prop
  | ended (input : Input) (h : w.hasEnded = true) : Takes input w []
  | deaf (m : Message) (h : w.isListening = false) : Takes (.message m) w []
  | violated (m : Message) (v : Violation) (h : w.hears = true) (hv : w.Violates m v) :
    Takes (.message m) { w with hasEnded := true } [w.context.giveUp (.violation v)]
  | configured (overlay terminal : Bool) (h : w.hears = true) (hsession : w.session? = none) :
    Takes (.message (.configure overlay terminal))
      { w with
        session? :=
          some { root := w.context.root, reporter := reporter w.context overlay terminal } }
      []
  /-- The watch cannot be opened. -/
  | unopened {s : Session} (root : String) (e : WatchError) (h : w.hears = true)
    (hsession : w.session? = some s) (hwatch : w.watcher? = none)
    (hopen : openWatch w.context disk root = .error e) :
    Takes (.message (.watch root)) { w with hasEnded := true } [w.context.giveUp (.watch e)]
  /-- The watch is open, but the full check fails. -/
  | unchecked {s : Session} {watcher : Watcher} (root : String) (e : CheckError)
    (h : w.hears = true) (hsession : w.session? = some s) (hwatch : w.watcher? = none)
    (hopen : openWatch w.context disk root = .ok watcher)
    (hcheck : runner.checkProject s.root = .error e) :
    Takes (.message (.watch root))
      { w with watcher? := some watcher, session? := some s, hasEnded := true }
      [.ran (.project s.root), w.context.giveUp (.check e)]
  /-- The watch is open, and the full check is reported. -/
  | checked {s : Session} {watcher : Watcher} (root : String) (store : Store) (h : w.hears = true)
    (hsession : w.session? = some s) (hwatch : w.watcher? = none)
    (hopen : openWatch w.context disk root = .ok watcher) :
    Takes (.message (.watch root))
      { w with watcher? := some watcher, session? := some { s with store, phase := .watching } }
      (.ran (.project s.root) :: (eventsOf (s.reporter.report store)).map .told)
  | released (h : w.hears = true) :
    Takes (.message .release) ({ w with isListening := false } : Worker).settle []
  | closed (h : w.hasEnded = false) :
    Takes .closed ({ w with isListening := false } : Worker).settle []
  | noticed (n : Notice) (h : w.hasEnded = false) :
    Takes (.notice n) { w with watcher? := w.watcher?.map (·.notice disk n) } []
  /-- There is no watch, or no event waits. -/
  | idle (h : w.hasEnded = false) (hwait : w.watcher?.bind (·.take?) = none) : Takes .fileEvent w []
  /-- An event is taken that means nothing to the worker yet. -/
  | dropped {e : FileEvent} {watcher : Watcher} (h : w.hasEnded = false)
    (hwait : w.watcher?.bind (·.take?) = some (e, watcher))
    (hidle : ∀ s, w.session? = some s → s.phase = .idle) :
    Takes .fileEvent { w with watcher? := some watcher } []
  | handled {s : Session} {e : FileEvent} {watcher : Watcher} (h : w.hasEnded = false)
    (hwait : w.watcher?.bind (·.take?) = some (e, watcher)) (hsession : w.session? = some s)
    (hphase : s.phase = .watching) :
    Takes .fileEvent
      { w with
        watcher? := some watcher
        session? := some { s with store := s.storeAfter disk runner e, phase := .watching } }
      ((s.runFor? e).toList.map .ran ++
        (eventsOf (s.reporter.report (s.storeAfter disk runner e))).map .told)
  | unwatched (h : w.hasEnded = false) :
    Takes .unwatched ({ w with watcher? := none } : Worker).settle []

variable {w disk runner}

theorem takes_takeMessage (h : w.hears = true) (m : Message) :
    w.Takes disk runner (.message m) (w.takeMessage disk runner m).1
      (w.takeMessage disk runner m).2 := by
  cases m with
  | configure overlay terminal =>
    cases hs : w.session? with
    | some s =>
      simp only [takeMessage, hs]
      exact .violated _ _ h (.configuredTwice overlay terminal (by simp [hs]))
    | none =>
      simp only [takeMessage, hs]
      exact .configured overlay terminal h hs
  | watch root =>
    cases hs : w.session? with
    | none =>
      simp only [takeMessage, hs]
      exact .violated _ _ h (.notConfigured root hs)
    | some s =>
      cases hw : w.watcher? with
      | some watcher =>
        simp only [takeMessage, hs, hw]
        exact .violated _ _ h (.watchedTwice root (by simp [hs]) (by simp [hw]))
      | none =>
        simp only [takeMessage, hs, hw, startWatching]
        cases hopen : openWatch w.context disk root with
        | error e => exact .unopened root e h hs hw hopen
        | ok watcher =>
          cases hcheck : runner.checkProject s.root with
          | error e =>
            simp only [s.checkAll_of_error disk hcheck]
            exact .unchecked root e h hs hw hopen hcheck
          | ok records =>
            simp only [s.checkAll_of_ok disk hcheck]
            exact .checked root _ h hs hw hopen
  | release => exact .released h

theorem takes_takeFileEvent (h : w.hasEnded = false) :
    w.Takes disk runner .fileEvent (w.takeFileEvent disk runner).1
      (w.takeFileEvent disk runner).2 := by
  unfold takeFileEvent
  split
  · rename_i hwait
    exact .idle h hwait
  · rename_i e watcher hwait
    rcases w with ⟨context, session?, watcher?, isListening, hasEnded⟩
    cases session? with
    | none => exact .dropped h hwait (by simp)
    | some s =>
      cases hphase : s.phase with
      | idle =>
        simp only [Session.handle_of_idle hphase]
        exact .dropped h hwait (by simpa using hphase)
      | watching =>
        simp only [Session.handle_of_watching hphase]
        exact .handled h hwait rfl hphase

/-- Whatever a worker is given, it does one of these things. -/
theorem takes_step (w : Worker) (disk : Disk) (runner : Runner) (input : Input) :
    w.Takes disk runner input (w.step disk runner input).1 (w.step disk runner input).2 := by
  unfold step
  split
  · rename_i hended
    exact .ended input hended
  · rename_i hended
    have hrunning : w.hasEnded = false := by simpa using hended
    cases input with
    | message m =>
      simp only
      split
      · rename_i hl
        exact takes_takeMessage (by simp [hears, hl, hrunning]) m
      · rename_i hl
        exact .deaf m (by simpa using hl)
    | closed => exact .closed hrunning
    | notice n => exact .noticed n hrunning
    | fileEvent => exact takes_takeFileEvent hrunning
    | unwatched => exact .unwatched hrunning

end Sidecheck.Worker
