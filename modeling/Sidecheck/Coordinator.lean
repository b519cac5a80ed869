import Sidecheck.Worker.Event
/-!
# The coordinator

All workers tell their events on one channel, in any order. The coordinator writes out what it
reads there and counts the workers that have told their last event; it stops when none is left,
or when the channel ends.
-/

namespace Sidecheck

/-- The totals of a build. -/
structure BuildOutcome where
  errors : Nat := 0
  warnings : Nat := 0
  /-- The checkers whose worker has failed, in the order in which they did. -/
  failed : List Checker := []
  /-- The number of workers that have ended without a last event. -/
  missing : Nat := 0
deriving DecidableEq, Repr

namespace BuildOutcome

/-- The build is to fail. -/
def isFailure (o : BuildOutcome) (failOnWarnings : Bool) : Bool :=
  0 < o.errors || (failOnWarnings && 0 < o.warnings) || !o.failed.isEmpty || 0 < o.missing

/-- Counts a summary in. -/
def add (o : BuildOutcome) (s : Summary) : BuildOutcome :=
  { o with errors := s.errors + o.errors, warnings := s.warnings + o.warnings }

end BuildOutcome

namespace Coordinator

/-- What has come of the events of a build. -/
structure Build where
  /-- The entries written to the terminal. -/
  lines : List String := []
  outcome : BuildOutcome := {}
  /-- The events that nobody has read. -/
  unread : List WorkerEvent := []
deriving DecidableEq, Repr

/-- Reads the events of a build until no worker is pending. Nothing goes to an overlay. -/
def drain : (pending : Nat) → List WorkerEvent → Build
  | 0, events => { unread := events }
  | pending, [] => { outcome := { missing := pending } }
  | pending, .console entry :: rest =>
    let b := drain pending rest
    { b with lines := entry :: b.lines }
  | pending, .overlay _ :: rest => drain pending rest
  | pending + 1, .finished _ summary :: rest =>
    let b := drain pending rest
    { b with outcome := b.outcome.add summary }
  | pending + 1, .failed checker _ :: rest =>
    let b := drain pending rest
    { b with outcome := { b.outcome with failed := checker :: b.outcome.failed } }

/-- What has come of the events of workers that watch. -/
structure Serve where
  /-- The entries written to the terminal. -/
  lines : List String := []
  /-- The payloads for the overlay. -/
  posted : List Payload := []
  /-- The checkers whose worker has failed, in the order in which they did. -/
  failed : List Checker := []
  /-- The number of workers that have not told a last event. -/
  live : Nat := 0
  /-- The events that nobody has read. -/
  unread : List WorkerEvent := []
deriving DecidableEq, Repr

/-- Passes on the events of workers that watch, until none is live. -/
def route : (live : Nat) → List WorkerEvent → Serve
  | 0, events => { unread := events }
  | live, [] => { live }
  | live, .console entry :: rest =>
    let s := route live rest
    { s with lines := entry :: s.lines }
  | live, .overlay payload :: rest =>
    let s := route live rest
    { s with posted := payload :: s.posted }
  | live + 1, .finished .. :: rest => route live rest
  | live + 1, .failed checker _ :: rest =>
    let s := route live rest
    { s with failed := checker :: s.failed }

/-- The text of entries on a terminal. -/
def printed (lines : List String) : String := String.join (lines.map (· ++ "\n"))

end Coordinator

end Sidecheck
