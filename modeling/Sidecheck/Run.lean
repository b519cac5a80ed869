import Sidecheck.Coordinator
import Sidecheck.Overlay
import Sidecheck.Settings
import Sidecheck.Worker.Build
import Sidecheck.Worker.Serve
/-!
# Runs

A run has one worker for each checker of its settings. Workers do not wait for each other; here
the events of a turn are read worker by worker, which is one of the orders in which they may
come.
-/

namespace Sidecheck

namespace Settings

/-- What the worker of a checker knows from the beginning. -/
def context (s : Settings) (c : CheckerSettings) : Worker.Context where
  checker := c.tool.checker
  root := s.root
  color := s.color
  levels := c.logLevel
  watchPaths := c.watchPaths
  ignore := s.ignore

/-- The messages that every worker is told, in their order. In a build there are none. -/
def messages (s : Settings) : List Worker.Message :=
  match s.mode with
  | .build => []
  | .serve => [.configure s.overlay s.terminal, .watch s.root, .release]

end Settings

/-! ## Builds -/

/-- What has come of a build. -/
structure BuildRun where
  invocations : List Invocation
  result : Coordinator.Build

namespace BuildRun

/-- What each worker does in a build. -/
def actions (s : Settings) (m : Machine) : List (Tool × List Worker.Action) :=
  s.checkers.map fun c => (c.tool, Worker.build (s.context c) m.disk (c.tool.runner m))

/-- The runs of tools behind what workers did. -/
def invocationsOf (m : Machine) (actions : List (Tool × List Worker.Action)) : List Invocation :=
  actions.flatMap fun (tool, done) => (Worker.runs done).map (tool.invocationFor m)

/-- Checks everything once. -/
def ofSettings (s : Settings) (m : Machine) : BuildRun :=
  let actions := actions s m
  { invocations := invocationsOf m actions
    result := Coordinator.drain s.checkers.length (actions.flatMap fun a => Worker.told a.2) }

end BuildRun

/-! ## Runs that watch -/

/-- A run that watches: the workers with their tools, and what has come of it so far. -/
structure ServeRun where
  machine : Machine
  /-- The file for payloads, if there is an overlay. -/
  overlay? : Option OverlayFile
  workers : List (Tool × Worker)
  invocations : List Invocation := []
  /-- The entries written to the terminal. -/
  lines : List String := []
  /-- The checkers whose worker has failed, in the order in which they did. -/
  failed : List Checker := []
  /-- The number of workers that have not told a last event. -/
  live : Nat

namespace ServeRun

/-- The run before its workers are told anything. The overlay file is there before any of
them. -/
def begin (s : Settings) (m : Machine) : ServeRun :=
  let (disk, overlay?) :=
    if s.overlay then
      let (disk, file) := OverlayFile.create m.disk s.overlayFile
      (disk, some file)
    else (m.disk, none)
  { machine := { m with disk }
    overlay?
    workers := s.checkers.map fun c => (c.tool, { context := s.context c })
    live := s.checkers.length }

/-- Lets every worker take a turn, and passes on what they tell. -/
def turn (r : ServeRun) (act : Worker → Disk → Runner → Worker × List Worker.Action) :
    ServeRun :=
  let m := r.machine
  let acted := r.workers.map fun (tool, w) => (tool, act w m.disk (tool.runner m))
  let actions := acted.map fun (tool, _, done) => (tool, done)
  let told := Coordinator.route r.live (actions.flatMap fun a => Worker.told a.2)
  { r with
    machine := { m with
      disk := r.overlay?.elim m.disk fun file => file.postAll m.disk told.posted }
    workers := acted.map fun (tool, w, _) => (tool, w)
    invocations := r.invocations ++ BuildRun.invocationsOf m actions
    lines := r.lines ++ told.lines
    failed := r.failed ++ told.failed
    live := told.live }

/-- Tells every worker the messages. -/
def tell (r : ServeRun) (messages : List Worker.Message) : ServeRun :=
  r.turn fun w disk runner => w.run disk runner (messages.map .message)

/-- A notification comes in, and every worker takes the events that wait. -/
def notice (r : ServeRun) (n : Notice) : ServeRun :=
  let r := r.turn fun w disk runner => w.step disk runner (.notice n)
  r.turn Worker.catchUp

/-- The run after all first checks. -/
def ofSettings (s : Settings) (m : Machine) : ServeRun := (begin s m).tell s.messages

end ServeRun

end Sidecheck
