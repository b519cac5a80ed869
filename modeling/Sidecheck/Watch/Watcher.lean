import Sidecheck.Watch.Matcher
import Sidecheck.Watch.Queue
/-!
# Watchers

A watcher is an open watch. Notifications may come in at any time; the events in them that matter
wait until someone takes them. Whoever takes an event when none is queued first queues all that
have arrived, so that repetitions among them are left out.
-/

namespace Sidecheck

/-- An open watch. -/
structure Watcher where
  matcher : Matcher
  /-- Events that have arrived and were not looked at yet. -/
  arrived : List FileEvent := []
  /-- Events that were looked at and wait to be taken. -/
  queue : List FileEvent := []

namespace Watcher

/-- Opens a watch. Something must be at its root. -/
def start (disk : Disk) (matcher : Matcher) : Except WatchError Watcher :=
  if disk.isThere matcher.root then .ok { matcher } else .error (.noRoot matcher.root)

/-- Events have arrived. -/
def arrive (w : Watcher) (es : List FileEvent) : Watcher := { w with arrived := w.arrived ++ es }

/-- A notification has come in. -/
def notice (w : Watcher) (disk : Disk) (n : Notice) : Watcher :=
  w.arrive (w.matcher.ofNotice disk n)

/-- Queues what has arrived, if nothing is queued. -/
def refill (w : Watcher) : Watcher :=
  if w.queue.isEmpty then { w with arrived := [], queue := Queue.pushAll [] w.arrived } else w

/-- Takes the next event, if there is one. -/
def take? (w : Watcher) : Option (FileEvent × Watcher) :=
  let w := w.refill
  match w.queue with
  | [] => none
  | e :: rest => some (e, { w with queue := rest })

/-- No event waits. -/
def isIdle (w : Watcher) : Bool := w.arrived.isEmpty && w.queue.isEmpty

/-- An event is given exactly if one waits. -/
theorem take?_eq_none_iff {w : Watcher} : w.take? = none ↔ w.isIdle = true := by
  rcases w with ⟨matcher, arrived, queue⟩
  cases queue with
  | nil =>
    cases hpushed : Queue.pushAll [] arrived with
    | nil =>
      have harrived : arrived = [] := (Queue.pushAll_eq_nil_iff.1 hpushed).2
      simp [take?, refill, isIdle, harrived, Queue.pushAll]
    | cons e rest =>
      have harrived : arrived ≠ [] := by
        rintro rfl
        cases hpushed
      simp [take?, refill, isIdle, hpushed, harrived]
  | cons e rest => simp [take?, refill, isIdle]

end Watcher

end Sidecheck
