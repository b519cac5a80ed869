import Sidecheck.Worker.Event
/-!
# Workers in a build

A worker checks the whole project once, reports it to the terminal and tells that it has
finished, or why it could not. Which levels are shown and what the overlay gets are matters of
watching and play no part.
-/

namespace Sidecheck.Worker

/-- The session of a build. -/
def buildSession (c : Context) : Session where
  root := c.root
  reporter := { checker := c.checker, overlay := false, color := c.color }

/-- What a step tells in a build. -/
def buildEvents (c : Context) : Session.Shown → List Action
  | .nothing => []
  | .report r => (eventsOf r ++ [WorkerEvent.finished c.checker r.summary]).map .told
  | .failure e => [c.giveUp (.check e)]

/-- What a worker does in a build. -/
def build (c : Context) (disk : Disk) (runner : Runner) : List Action :=
  let step := (buildSession c).checkAll disk runner
  step.runs.map .ran ++ buildEvents c step.shown

end Sidecheck.Worker
