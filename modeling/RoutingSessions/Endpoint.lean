/-
  RoutingSessions.Endpoint — publications and subscriptions, as discovery announces
  them.

  An endpoint that lists no partition is in the default one.
-/
import RoutingSessions.Handle
import RoutingSessions.Session

namespace RoutingSessions

/-- A publication or subscription found on the observed domain. -/
structure Endpoint where
  handle : Handle
  /-- Outgoing for a publication, incoming for a subscription. -/
  direction : Direction
  topic : String
  typeName : String
  /-- The partitions as announced, in order and with repetitions. -/
  partitions : List String
deriving DecidableEq

namespace Endpoint

/-- The endpoint publishes. -/
def isPublication (e : Endpoint) : Bool := e.direction = .outgoing

/-- The partitions that the endpoint is in: the default one if it lists none. -/
def effectivePartitions (e : Endpoint) : List String :=
  if e.partitions.isEmpty then [""] else e.partitions

/-- The route that carries the endpoint's data. -/
def route (e : Endpoint) : Route := ⟨e.direction, e.topic, e.typeName⟩

/-- The session that serves partition `p` of the endpoint's topic. -/
def session (e : Endpoint) (p : String) : Session := ⟨e.topic, p⟩

/-- The sessions of all partitions that the endpoint is in. -/
def sessions (e : Endpoint) : List Session := e.effectivePartitions.map e.session

@[simp] theorem topic_route (e : Endpoint) : e.route.topic = e.topic := rfl

@[simp] theorem topic_session (e : Endpoint) (p : String) : (e.session p).topic = e.topic := rfl

end Endpoint

end RoutingSessions
