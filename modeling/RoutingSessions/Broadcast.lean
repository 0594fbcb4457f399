/-
  RoutingSessions.Broadcast — an observer and those who want to know of its changes.

  The changes that an announcement brings about are published at once.  Whether they
  arrive does not concern the observer: it goes on after the delivery has broken
  down, and after it was closed.

  Main statement:
    * `close_observer` — closing the delivery leaves the observer alone.
-/
import RoutingSessions.Delivery
import RoutingSessions.Observer

namespace RoutingSessions

/-- An observer whose changes are delivered. -/
structure Broadcast where
  observer : Observer
  delivery : Delivery

namespace Broadcast

/-- A broadcast without subscribers, before anything happens. -/
def start (filters : List Filter) : Broadcast := ⟨.new filters, .start []⟩

/-! ## Steps -/

/-- Takes in an announcement, and publishes the changes; what is noted comes second. -/
def notice (n : Notification) (b : Broadcast) : Broadcast × List Note :=
  let seen := b.observer.notice n
  let published := b.delivery.publish seen.2
  (⟨seen.1, published.1⟩, b.observer.admissionNotes n.endpoint ++ published.2)

/-- Adds a subscriber to whom nothing has been handed yet, with the number of the change on which
it breaks down. -/
def subscribe (breaksAt : Option Nat) (b : Broadcast) : Broadcast :=
  { b with delivery := b.delivery.subscribe ⟨.empty, breaksAt⟩ }

/-- Closes the delivery; what is noted comes second. -/
def close (b : Broadcast) : Broadcast × List Note :=
  let closed := b.delivery.close
  ({ b with delivery := closed.1 }, closed.2)

/-- A step of a run. -/
inductive Step where
  | notice (n : Notification)
  /-- Puts a participant on the watch list. -/
  | watch (p : ParticipantId)
  /-- Takes a participant off the watch list. -/
  | unwatch (p : ParticipantId)
  /-- Adds a subscriber that breaks down on the change with the given number, if any. -/
  | subscribe (breaksAt : Option Nat)
  | close
deriving DecidableEq

/-- Takes a step; what is noted comes second. -/
def run (step : Step) (b : Broadcast) : Broadcast × List Note :=
  match step with
  | .notice n => b.notice n
  | .watch p => ({ b with observer := b.observer.watch p }, [])
  | .unwatch p => ({ b with observer := (b.observer.unwatch p).1 }, [])
  | .subscribe breaksAt => (b.subscribe breaksAt, [])
  | .close => b.close

theorem close_observer (b : Broadcast) : b.close.1.observer = b.observer := rfl

end Broadcast

end RoutingSessions
