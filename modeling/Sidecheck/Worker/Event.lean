import Sidecheck.Session
import Sidecheck.Watch.Matcher
/-!
# Workers and what they tell

Each checker has a worker of its own. Workers share nothing: a worker takes messages and tells
events, and which checks it runs is seen by nobody but the tool.
-/

namespace Sidecheck

/-- What a worker tells. -/
inductive WorkerEvent
  /-- An entry for the terminal. -/
  | console (entry : String)
  /-- An update of the overlay. -/
  | overlay (payload : Payload)
  /-- The check of a build is complete. -/
  | finished (checker : Checker) (summary : Summary)
  /-- The worker has stopped because of an error. -/
  | failed (checker : Checker) (reason : String)
deriving DecidableEq, Repr

/-- The last event that its worker tells. -/
def WorkerEvent.isFinal : WorkerEvent → Bool
  | .finished .. | .failed .. => true
  | .console _ | .overlay _ => false

namespace Worker

/-- What a worker is told. -/
inductive Message
  /-- What the reports are to be written to. It comes first, and once. -/
  | configure (overlay terminal : Bool)
  /-- Check everything and watch what is below a root. -/
  | watch (root : String)
  /-- No more messages follow. -/
  | release
deriving DecidableEq, Repr

/-- A message that cannot follow those before it. -/
inductive Violation
  | configuredTwice
  | watchedTwice
  | notConfigured
deriving DecidableEq, Repr

/-- The violation in words. -/
def Violation.message : Violation → String
  | .configuredTwice => "protocol violation: received Config twice"
  | .watchedTwice => "protocol violation: received ConfigureServer twice"
  | .notConfigured => "protocol violation: received ConfigureServer before Config"

/-- Why a worker has stopped. -/
inductive Failure
  | violation (v : Violation)
  | watch (e : WatchError)
  | check (e : CheckError)
deriving DecidableEq, Repr

/-- The reason in words. -/
def Failure.message : Failure → String
  | .violation v => v.message
  | .watch e => e.message
  | .check e => e.message

/-- What a worker does. -/
inductive Action
  | ran (run : CheckRun)
  | told (e : WorkerEvent)
deriving DecidableEq, Repr

/-- The events among actions, in their order. -/
def told (actions : List Action) : List WorkerEvent :=
  actions.filterMap fun
    | .told e => some e
    | .ran _ => none

/-- The checks among actions, in their order. -/
def runs (actions : List Action) : List CheckRun :=
  actions.filterMap fun
    | .ran run => some run
    | .told _ => none

/-- The events of a report: the entries for the terminal before the overlay's payload. -/
def eventsOf (r : Report) : List WorkerEvent :=
  r.lines.map .console ++ r.payload.toList.map .overlay

/-- What a worker knows from the beginning. -/
structure Context where
  checker : Checker
  /-- The canonical path of the project. -/
  root : String
  color : Bool
  /-- The levels shown while watching, all of them if there is no list. -/
  levels : Option (List Severity)
  watchPaths : List String
  /-- Patterns of files that the checker does not react to. -/
  ignore : List String
deriving DecidableEq, Repr

/-- The worker tells that it has stopped. -/
def Context.giveUp (c : Context) (f : Failure) : Action := .told (.failed c.checker f.message)

end Worker

end Sidecheck
