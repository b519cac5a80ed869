import Sidecheck.Watch.Watcher
import Sidecheck.Worker.Event
/-!
# Workers beside a server

A worker takes messages until it is released or nobody is left to send any, and file events as
long as its watch is open. It ends when neither is left, or with the first failure. A step takes
one input and gives the worker after it and what the worker did; what cannot arrive in a state
changes nothing there.
-/

namespace Sidecheck

/-- A worker that watches. -/
structure Worker where
  context : Worker.Context
  /-- The session, once the worker is configured. -/
  session? : Option Session := none
  /-- The watch, while it is open. -/
  watcher? : Option Watcher := none
  /-- Messages are still taken. -/
  isListening : Bool := true
  hasEnded : Bool := false

namespace Worker

/-- What may happen to a worker. -/
inductive Input
  | message (m : Message)
  /-- Nobody is left to send messages. -/
  | closed
  /-- A notification comes in for the watch. -/
  | notice (n : Notice)
  /-- The worker takes the next file event that waits. -/
  | fileEvent
  /-- The watch is gone. -/
  | unwatched

/-- The reporter of a worker that is configured. -/
def reporter (c : Context) (overlay terminal : Bool) : Reporter where
  checker := c.checker
  levels := c.levels
  terminal := terminal
  overlay := overlay
  color := c.color

/-- Stops with a failure. -/
def fail (w : Worker) (f : Failure) : Worker × List Action :=
  ({ w with hasEnded := true }, [w.context.giveUp f])

/-- Ends if nothing more can arrive. -/
def settle (w : Worker) : Worker :=
  if w.isListening || w.watcher?.isSome then w else { w with hasEnded := true }

/-- What a step of the session means for the worker. -/
def afterStep (w : Worker) (step : Session.Step) : Worker × List Action :=
  let w := { w with session? := some step.session }
  let ran := step.runs.map .ran
  match step.shown with
  | .nothing => (w, ran)
  | .report r => (w, ran ++ (eventsOf r).map .told)
  | .failure e =>
    let (w, actions) := w.fail (.check e)
    (w, ran ++ actions)

/-- The watch below a root. -/
def openWatch (c : Context) (disk : Disk) (root : String) : Except WatchError Watcher := do
  Watcher.start disk (← Matcher.make disk root c.watchPaths c.ignore)

/-- Opens the watch, then checks everything. What changes during the check is noticed by the
watch and waits. -/
def startWatching (w : Worker) (disk : Disk) (runner : Runner) (session : Session)
    (root : String) : Worker × List Action :=
  match openWatch w.context disk root with
  | .error e => w.fail (.watch e)
  | .ok watcher =>
    { w with watcher? := some watcher }.afterStep (session.checkAll disk runner)

/-- Takes a message. -/
def takeMessage (w : Worker) (disk : Disk) (runner : Runner) : Message → Worker × List Action
  | .configure overlay terminal =>
    match w.session? with
    | some _ => w.fail (.violation .configuredTwice)
    | none =>
      let session := { root := w.context.root, reporter := reporter w.context overlay terminal }
      ({ w with session? := some session }, [])
  | .watch root =>
    match w.session?, w.watcher? with
    | none, _ => w.fail (.violation .notConfigured)
    | some _, some _ => w.fail (.violation .watchedTwice)
    | some session, none => w.startWatching disk runner session root
  | .release => ({ w with isListening := false }.settle, [])

/-- Takes the next file event, if one waits. -/
def takeFileEvent (w : Worker) (disk : Disk) (runner : Runner) : Worker × List Action :=
  match w.watcher?.bind (·.take?) with
  | none => (w, [])
  | some (e, watcher) =>
    let w := { w with watcher? := some watcher }
    match w.session? with
    | none => (w, [])
    | some session => w.afterStep (session.handle disk runner e)

/-- Takes an input. -/
def step (w : Worker) (disk : Disk) (runner : Runner) (input : Input) : Worker × List Action :=
  if w.hasEnded then (w, [])
  else match input with
    | .message m => if w.isListening then w.takeMessage disk runner m else (w, [])
    | .closed => ({ w with isListening := false }.settle, [])
    | .notice n => ({ w with watcher? := w.watcher?.map (·.notice disk n) }, [])
    | .fileEvent => w.takeFileEvent disk runner
    | .unwatched => ({ w with watcher? := none }.settle, [])

/-- Takes inputs one by one, while the disk and the runner stay as they are. -/
def run (w : Worker) (disk : Disk) (runner : Runner) : List Input → Worker × List Action
  | [] => (w, [])
  | i :: rest =>
    let (w, first) := w.step disk runner i
    let (w, others) := w.run disk runner rest
    (w, first ++ others)

/-- The number of file events that may still be taken. -/
def waiting (w : Worker) : Nat :=
  w.watcher?.elim 0 fun watcher => watcher.arrived.length + watcher.queue.length

/-- Takes all file events that wait. -/
def catchUp (w : Worker) (disk : Disk) (runner : Runner) : Worker × List Action :=
  w.run disk runner (List.replicate w.waiting .fileEvent)

end Worker

end Sidecheck
