/-
  RoutingSessions.Transport — stand-ins for the way to the routing engine.

  A scripted transport answers from a queue, and acknowledges everything once the
  queue is empty.  A dry run acknowledges everything.  Both keep what they were sent.

  Main statement:
    * `send_dryRun` — a dry run is a scripted transport with an empty queue.
-/
import RoutingSessions.Request

namespace RoutingSessions

/-- A transport that answers from a queue. -/
structure ScriptedTransport where
  /-- The answers to come; a missing one is an answer that does not come in time. -/
  queue : List (Option Response)
  /-- The requests sent, oldest first. -/
  requests : List Request
deriving DecidableEq, Inhabited

namespace ScriptedTransport

/-- The transport that acknowledges everything. -/
def new : ScriptedTransport := ⟨[], []⟩

/-- Adds an answer to the queue. -/
def push (answer : Option Response) (t : ScriptedTransport) : ScriptedTransport :=
  { t with queue := t.queue ++ [answer] }

/-- Adds `count` missing answers to the queue. -/
def pushTimeouts (count : Nat) (t : ScriptedTransport) : ScriptedTransport :=
  { t with queue := t.queue ++ List.replicate count none }

/-- Sends a request. -/
def send (r : Request) (t : ScriptedTransport) : ScriptedTransport × Option Response :=
  match t.queue with
  | [] => (⟨[], t.requests ++ [r]⟩, some .ok)
  | answer :: queue => (⟨queue, t.requests ++ [r]⟩, answer)

/-- How many requests of a kind were sent. -/
def count (action : Action) (t : ScriptedTransport) : Nat :=
  t.requests.countP fun r => r.action = action

end ScriptedTransport

/-- A transport that acknowledges everything and sends nothing. -/
structure DryRun where
  /-- The requests acknowledged, oldest first. -/
  requests : List Request
deriving DecidableEq, Inhabited

namespace DryRun

/-- The dry run before the first request. -/
def new : DryRun := ⟨[]⟩

/-- Acknowledges a request. -/
def send (r : Request) (t : DryRun) : DryRun × Option Response :=
  (⟨t.requests ++ [r]⟩, some .ok)

end DryRun

theorem send_dryRun (r : Request) (t : DryRun) :
    (ScriptedTransport.mk [] t.requests).send r
      = (⟨[], (t.send r).1.requests⟩, (t.send r).2) := rfl

end RoutingSessions
