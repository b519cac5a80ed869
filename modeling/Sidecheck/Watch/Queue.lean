import Sidecheck.Watch.Event
/-!
# The queue of events

Events that wait to be handled. One that only repeats the last event of its path says nothing
new and is left out.
-/

namespace Sidecheck.Queue

/-- The last event in the queue for a path. -/
def lastFor? (queue : List FileEvent) (path : String) : Option FileEvent :=
  queue.reverse.find? fun e => Path.same e.path path

/-- Adds an event at the end, unless it repeats the last one of its path. -/
def push (queue : List FileEvent) (e : FileEvent) : List FileEvent :=
  if (lastFor? queue e.path).any (·.same e) then queue else queue ++ [e]

/-- Adds events one by one. -/
def pushAll (queue : List FileEvent) (es : List FileEvent) : List FileEvent := es.foldl push queue

theorem push_ne_nil (queue : List FileEvent) (e : FileEvent) : push queue e ≠ [] := by
  cases queue with
  | nil => simp [push, lastFor?]
  | cons first rest =>
    unfold push
    split <;> simp

/-- Of events that are pushed, at least one stays. -/
theorem pushAll_eq_nil_iff {queue es : List FileEvent} :
    pushAll queue es = [] ↔ queue = [] ∧ es = [] := by
  induction es generalizing queue with
  | nil => simp [pushAll]
  | cons e es ih =>
    have hcons : pushAll queue (e :: es) = pushAll (push queue e) es := rfl
    simp [hcons, ih, push_ne_nil]

end Sidecheck.Queue
