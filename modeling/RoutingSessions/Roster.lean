/-
  RoutingSessions.Roster — which endpoints need which sessions and routes.

  The roster is a relation: a seat says that an endpoint needs a route of a session.
  A route is live while someone has a seat there, and a session is live while one of
  its routes is.  Beside the seats stands an index of the sessions that each endpoint
  has joined; an endpoint that leaves a session under another route than it joined
  is taken off the index, and keeps its seat.

  Joining and leaving report the resources that come to life and those that die, the
  outer one first when they come and last when they go.

  Main statements:
    * `mem_seats_join`, `mem_seats_leave` — the seats after each operation.
    * `mem_index_join`, `mem_index_leave` — the index after each operation.
-/
import RoutingSessions.Handle
import RoutingSessions.OrderedSet
import RoutingSessions.Session

namespace RoutingSessions

/-! ## Seats -/

/-- An endpoint that needs a route of a session. -/
structure Seat where
  session : Session
  route : Route
  handle : Handle
deriving DecidableEq

namespace Seat

instance : Ord Seat :=
  ⟨compareLex (compareOn (·.session)) (compareLex (compareOn (·.route)) (compareOn (·.handle)))⟩

instance : Std.TransOrd Seat :=
  inferInstanceAs (Std.TransCmp (compareLex (compareOn (fun a : Seat => a.session))
    (compareLex (compareOn (fun a : Seat => a.route)) (compareOn (fun a : Seat => a.handle)))))

instance : Std.LawfulEqOrd Seat where
  eq_of_compare {a b} h := by
    obtain ⟨hs, h⟩ := Ordering.then_eq_eq.1 h
    obtain ⟨hr, hh⟩ := Ordering.then_eq_eq.1 h
    have hs : a.session = b.session := Std.LawfulEqOrd.eq_of_compare hs
    have hr : a.route = b.route := Std.LawfulEqOrd.eq_of_compare hr
    have hh : a.handle = b.handle := Std.LawfulEqOrd.eq_of_compare hh
    cases a; cases b; simp_all

end Seat

/-- An endpoint that has joined a session. -/
structure Attribution where
  handle : Handle
  session : Session
deriving DecidableEq

namespace Attribution

instance : Ord Attribution := ⟨compareLex (compareOn (·.handle)) (compareOn (·.session))⟩

instance : Std.TransOrd Attribution :=
  inferInstanceAs (Std.TransCmp (compareLex (compareOn (fun a : Attribution => a.handle))
    (compareOn (fun a : Attribution => a.session))))

instance : Std.LawfulEqOrd Attribution where
  eq_of_compare {a b} h := by
    obtain ⟨hh, hs⟩ := Ordering.then_eq_eq.1 h
    have hh : a.handle = b.handle := Std.LawfulEqOrd.eq_of_compare hh
    have hs : a.session = b.session := Std.LawfulEqOrd.eq_of_compare hs
    cases a; cases b; simp_all

end Attribution

/-! ## Rosters -/

/-- Who needs what. -/
structure Roster where
  seats : OrderedSet Seat
  /-- The sessions that each endpoint has joined. -/
  index : OrderedSet Attribution
deriving Inhabited

namespace Roster

/-- The roster on which nobody is. -/
def empty : Roster := ⟨.empty, .empty⟩

/-! ### Views -/

/-- Someone has a seat in the session. -/
def hasSession (r : Roster) (s : Session) : Bool :=
  r.seats.toList.any fun seat => seat.session = s

/-- Someone has a seat at the route of the session. -/
def hasRoute (r : Roster) (s : Session) (route : Route) : Bool :=
  r.seats.toList.any fun seat => seat.session = s && seat.route = route

/-- Someone needs the resource. -/
def needs (r : Roster) (k : Resource) : Bool :=
  match k.route with
  | none => r.hasSession k.session
  | some route => r.hasRoute k.session route

/-- The live sessions. -/
def sessions (r : Roster) : OrderedSet Session := .ofList (r.seats.toList.map (·.session))

/-- The live routes of a session. -/
def routes (r : Roster) (s : Session) : OrderedSet Route :=
  .ofList ((r.seats.toList.filter fun seat => seat.session = s).map (·.route))

/-- How many endpoints have a seat at the route of the session. -/
def seatCount (r : Roster) (s : Session) (route : Route) : Nat :=
  r.seats.toList.countP fun seat => seat.session = s && seat.route = route

/-- How many sessions are live. -/
def sessionCount (r : Roster) : Nat := r.sessions.toList.length

/-- The sessions that the endpoint has joined, in order. -/
def sessionsOf (r : Roster) (h : Handle) : List Session :=
  (r.index.toList.filter fun a => a.handle = h).map (·.session)

/-! ### Joining -/

/-- Gives the endpoint a seat, and reports what comes to life. -/
def join (h : Handle) (s : Session) (route : Route) (r : Roster) : Roster × List Change :=
  (⟨r.seats.insert ⟨s, route, h⟩, r.index.insert ⟨h, s⟩⟩,
    (if r.hasSession s then [] else [.createSession s])
      ++ (if r.hasRoute s route then [] else [.createRoute s route]))

/-! ### Leaving -/

/-- Takes the endpoint off the session's index, and away from its seat at the route if it has
one there; reports what dies. -/
def leave (h : Handle) (s : Session) (route : Route) (r : Roster) : Roster × List Change :=
  let index := r.index.erase ⟨h, s⟩
  if ⟨s, route, h⟩ ∈ r.seats then
    let left : Roster := ⟨r.seats.erase ⟨s, route, h⟩, index⟩
    (left,
      (if left.hasRoute s route then [] else [.deleteRoute s route])
        ++ (if left.hasSession s then [] else [.deleteSession s]))
  else (⟨r.seats, index⟩, [])

/-! ### Several sessions -/

/-- Applies an operation for each session, and reports all changes in order. -/
def forEach (act : Session → Roster → Roster × List Change) :
    List Session → Roster → Roster × List Change
  | [], r => (r, [])
  | s :: ss, r =>
    let first := act s r
    let rest := forEach act ss first.1
    (rest.1, first.2 ++ rest.2)

/-! ### Summaries -/

/-- A live session, and how many endpoints need each of its routes. -/
structure Summary where
  session : Session
  routes : List (Route × Nat)
deriving DecidableEq

/-- The live sessions in order, each with its routes in order. -/
def snapshot (r : Roster) : List Summary :=
  r.sessions.toList.map fun s =>
    ⟨s, (r.routes s).toList.map fun route => (route, r.seatCount s route)⟩

/-! ### Members -/

theorem hasSession_iff {r : Roster} {s : Session} :
    r.hasSession s = true ↔ ∃ seat ∈ r.seats, seat.session = s := by
  simp [hasSession, OrderedSet.mem_def]

theorem hasRoute_iff {r : Roster} {s : Session} {route : Route} :
    r.hasRoute s route = true ↔ ∃ h, (⟨s, route, h⟩ : Seat) ∈ r.seats := by
  simp only [hasRoute, OrderedSet.mem_def, List.any_eq_true, Bool.and_eq_true, decide_eq_true_eq]
  constructor
  · rintro ⟨⟨_, _, h⟩, hm, rfl, rfl⟩
    exact ⟨h, hm⟩
  · rintro ⟨h, hm⟩
    exact ⟨_, hm, rfl, rfl⟩

theorem mem_seats_join {h : Handle} {s : Session} {route : Route} {r : Roster} {seat : Seat} :
    seat ∈ (r.join h s route).1.seats ↔ seat = ⟨s, route, h⟩ ∨ seat ∈ r.seats :=
  OrderedSet.mem_insert

theorem mem_index_join {h : Handle} {s : Session} {route : Route} {r : Roster}
    {a : Attribution} :
    a ∈ (r.join h s route).1.index ↔ a = ⟨h, s⟩ ∨ a ∈ r.index :=
  OrderedSet.mem_insert

theorem mem_seats_leave {h : Handle} {s : Session} {route : Route} {r : Roster} {seat : Seat} :
    seat ∈ (r.leave h s route).1.seats ↔ seat ≠ ⟨s, route, h⟩ ∧ seat ∈ r.seats := by
  unfold leave
  split
  · exact OrderedSet.mem_erase
  · rename_i hn
    constructor
    · intro hm
      exact ⟨fun he => hn (he ▸ hm), hm⟩
    · exact fun hm => hm.2

theorem mem_index_leave {h : Handle} {s : Session} {route : Route} {r : Roster}
    {a : Attribution} :
    a ∈ (r.leave h s route).1.index ↔ a ≠ ⟨h, s⟩ ∧ a ∈ r.index := by
  unfold leave
  split <;> exact OrderedSet.mem_erase

end Roster

end RoutingSessions
