/-
  RoutingSessions.Session — what the routing engine is asked to keep: sessions, and
  topic routes inside them; and what is done to these.

  A session serves one partition of one topic.  A route carries one type of one
  topic in one direction.  Sessions are ordered by topic and then partition, routes
  by direction (in before out), topic and type; both orders compare text by code
  point.

  Main statements: both orders are lawful (`Std.TransOrd`, `Std.LawfulEqOrd`), so
  that ordered sets of them are determined by their members.
-/

namespace RoutingSessions

/-! ## Sessions -/

/-- A partition of a topic. -/
structure Session where
  topic : String
  /-- The partition; the empty text names the default one. -/
  partition : String
deriving DecidableEq, Inhabited

namespace Session

/-- The session of the default partition. -/
def isDefault (s : Session) : Bool := s.partition.isEmpty

/-- The form in which reports and diagnostics show a session. -/
def text (s : Session) : String := s!"{s.topic}[{s.partition}]"

instance : Ord Session := ⟨compareLex (compareOn (·.topic)) (compareOn (·.partition))⟩

instance : Std.TransOrd Session :=
  inferInstanceAs (Std.TransCmp (compareLex (compareOn (fun s : Session => s.topic))
    (compareOn (fun s : Session => s.partition))))

instance : Std.LawfulEqOrd Session where
  eq_of_compare {a b} h := by
    obtain ⟨ht, hp⟩ := Ordering.then_eq_eq.1 h
    have ht : a.topic = b.topic := Std.LawfulEqOrd.eq_of_compare ht
    have hp : a.partition = b.partition := Std.LawfulEqOrd.eq_of_compare hp
    cases a; cases b; simp_all

end Session

/-! ## Directions -/

/-- The side of the observed domain on which a route's endpoints sit. -/
inductive Direction where
  /-- Toward the observed domain: its endpoints subscribe. -/
  | incoming
  /-- Away from the observed domain: its endpoints publish. -/
  | outgoing
deriving DecidableEq, Inhabited

namespace Direction

/-- The upper-case label of a direction. -/
def label : Direction → String
  | incoming => "IN"
  | outgoing => "OUT"

/-- The place of a direction in the order of routes. -/
def rank : Direction → Nat
  | incoming => 0
  | outgoing => 1

theorem rank_injective {a b : Direction} (h : a.rank = b.rank) : a = b := by
  cases a <;> cases b <;> simp_all [rank]

end Direction

/-! ## Routes -/

/-- One type of one topic, carried in one direction. -/
structure Route where
  direction : Direction
  topic : String
  typeName : String
deriving DecidableEq, Inhabited

namespace Route

/-- The form in which reports and diagnostics show a route. -/
def text (r : Route) : String := s!"{r.direction.label}:{r.topic} ({r.typeName})"

instance : Ord Route :=
  ⟨compareLex (compareOn (·.direction.rank))
    (compareLex (compareOn (·.topic)) (compareOn (·.typeName)))⟩

instance : Std.TransOrd Route :=
  inferInstanceAs (Std.TransCmp (compareLex (compareOn (fun r : Route => r.direction.rank))
    (compareLex (compareOn (fun r : Route => r.topic))
      (compareOn (fun r : Route => r.typeName)))))

instance : Std.LawfulEqOrd Route where
  eq_of_compare {a b} h := by
    obtain ⟨hd, h⟩ := Ordering.then_eq_eq.1 h
    obtain ⟨ht, hn⟩ := Ordering.then_eq_eq.1 h
    have hd : a.direction = b.direction :=
      Direction.rank_injective (Std.LawfulEqOrd.eq_of_compare hd)
    have ht : a.topic = b.topic := Std.LawfulEqOrd.eq_of_compare ht
    have hn : a.typeName = b.typeName := Std.LawfulEqOrd.eq_of_compare hn
    cases a; cases b; simp_all

end Route

/-! ## Resources -/

/-- What a command creates or deletes: a session, or a route inside it. -/
structure Resource where
  session : Session
  route : Option Route
deriving DecidableEq, Inhabited

namespace Resource

/-- The session itself. -/
def ofSession (s : Session) : Resource := ⟨s, none⟩

/-- A route inside a session. -/
def ofRoute (s : Session) (r : Route) : Resource := ⟨s, some r⟩

/-- The form in which diagnostics show a resource. -/
def text (k : Resource) : String :=
  match k.route with
  | none => k.session.text
  | some r => s!"{k.session.text}/{r.text}"

end Resource

/-! ## Changes -/

/-- What is done to a resource. -/
inductive Action where
  | create
  | delete
deriving DecidableEq, Inhabited

/-- The label of an action. -/
def Action.label : Action → String
  | .create => "create"
  | .delete => "delete"

/-- A resource that is needed from now on, or no longer. -/
structure Change where
  action : Action
  resource : Resource
deriving DecidableEq, Inhabited

namespace Change

/-- The session is needed. -/
def createSession (s : Session) : Change := ⟨.create, .ofSession s⟩

/-- The session is no longer needed. -/
def deleteSession (s : Session) : Change := ⟨.delete, .ofSession s⟩

/-- The route is needed. -/
def createRoute (s : Session) (r : Route) : Change := ⟨.create, .ofRoute s r⟩

/-- The route is no longer needed. -/
def deleteRoute (s : Session) (r : Route) : Change := ⟨.delete, .ofRoute s r⟩

end Change

end RoutingSessions
