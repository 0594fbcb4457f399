/-
  RoutingSessions.Proofs.Roster.Views — what the views of a roster show.

  Sessions, routes, counts and summaries are all read off the seats, and the
  sessions of an endpoint off the index.  Each view gets one lemma that says
  what is in it and, where it is a list, one that says how it is ordered.

  Main statements:
    * `snapshot_sessions`, `mem_snapshot_routes` — what a summary lists.
    * `seatCount_eq_card` — a count is the size of the set of those seated.
    * `mem_sessionsOf`, `sessionsOf_ascending` — the sessions of an endpoint.
-/
import Mathlib.Data.Finset.Card
import Mathlib.Data.List.Nodup
import RoutingSessions.Roster

namespace RoutingSessions.Roster

/-! ## §1. Live resources. -/

@[simp] theorem needs_ofSession (r : Roster) (s : Session) :
    r.needs (.ofSession s) = r.hasSession s := rfl

@[simp] theorem needs_ofRoute (r : Roster) (s : Session) (route : Route) :
    r.needs (.ofRoute s route) = r.hasRoute s route := rfl

theorem mem_sessions {r : Roster} {s : Session} :
    s ∈ r.sessions ↔ r.hasSession s = true := by
  rw [hasSession_iff, sessions, OrderedSet.mem_ofList, List.mem_map]
  rfl

theorem mem_routes {r : Roster} {s : Session} {route : Route} :
    route ∈ r.routes s ↔ r.hasRoute s route = true := by
  rw [hasRoute_iff, routes, OrderedSet.mem_ofList, List.mem_map]
  constructor
  · rintro ⟨⟨s', route', h⟩, hseat, rfl⟩
    obtain ⟨hmem, hs⟩ := List.mem_filter.1 hseat
    obtain rfl : s' = s := of_decide_eq_true hs
    exact ⟨h, hmem⟩
  · rintro ⟨h, hmem⟩
    exact ⟨⟨s, route, h⟩, List.mem_filter.2 ⟨hmem, decide_eq_true rfl⟩, rfl⟩

/-- A live route keeps its session alive. -/
theorem hasSession_of_hasRoute {r : Roster} {s : Session} {route : Route}
    (h : r.hasRoute s route = true) : r.hasSession s = true := by
  obtain ⟨handle, hmem⟩ := hasRoute_iff.1 h
  exact hasSession_iff.2 ⟨⟨s, route, handle⟩, hmem, rfl⟩

/-- A live session has a live route. -/
theorem exists_hasRoute_of_hasSession {r : Roster} {s : Session}
    (h : r.hasSession s = true) : ∃ route, r.hasRoute s route = true := by
  obtain ⟨⟨s', route, handle⟩, hmem, rfl⟩ := hasSession_iff.1 h
  exact ⟨route, hasRoute_iff.2 ⟨handle, hmem⟩⟩

/-! ## §2. Counts. -/

/-- The count at a route is the size of the set of endpoints seated there. -/
theorem seatCount_eq_card {r : Roster} {s : Session} {route : Route}
    {seated : Finset Handle} (hseated : ∀ h, h ∈ seated ↔ (⟨s, route, h⟩ : Seat) ∈ r.seats) :
    r.seatCount s route = seated.card := by
  have hat : ∀ seat : Seat, (decide (seat.session = s) && decide (seat.route = route)) = true ↔
      seat = ⟨s, route, seat.handle⟩ := by
    rintro ⟨s', route', h⟩
    simp
  set here := r.seats.toList.filter fun seat => seat.session = s && seat.route = route
    with hhere
  -- two seats at one route differ in their handles, so no handle is counted twice
  have hnodup : (here.map Seat.handle).Nodup := by
    refine List.Nodup.map_on ?_ (r.seats.nodup_toList.filter _)
    intro a ha b hb hab
    rw [(hat a).1 (List.mem_filter.1 ha).2, (hat b).1 (List.mem_filter.1 hb).2, hab]
  have hset : seated = (here.map Seat.handle).toFinset := by
    ext h
    rw [hseated, List.mem_toFinset, List.mem_map]
    constructor
    · intro hmem
      exact ⟨⟨s, route, h⟩, List.mem_filter.2 ⟨hmem, (hat _).2 rfl⟩, rfl⟩
    · rintro ⟨seat, hseat, rfl⟩
      obtain ⟨hmem, hthere⟩ := List.mem_filter.1 hseat
      rw [← (hat seat).1 hthere]
      exact hmem
  rw [hset, List.toFinset_card_of_nodup hnodup, List.length_map, hhere,
      ← List.countP_eq_length_filter]
  rfl

/-! ## §3. Summaries. -/

/-- The sessions of the snapshot are the live ones, in order. -/
theorem snapshot_sessions (r : Roster) :
    r.snapshot.map (·.session) = r.sessions.toList := by
  unfold snapshot
  rw [List.map_map]
  exact List.map_id _

theorem length_snapshot (r : Roster) : r.snapshot.length = r.sessionCount := by
  unfold snapshot sessionCount
  rw [List.length_map]

/-- The sessions of the snapshot stand in strictly ascending order. -/
theorem snapshot_ascending (r : Roster) :
    (r.snapshot.map (·.session)).Pairwise (fun a b => compare a b = .lt) := by
  rw [snapshot_sessions]
  exact r.sessions.ascending

theorem mem_snapshot {r : Roster} {e : Summary} :
    e ∈ r.snapshot ↔ r.hasSession e.session = true
      ∧ e.routes = (r.routes e.session).toList.map fun route =>
          (route, r.seatCount e.session route) := by
  unfold snapshot
  rw [List.mem_map]
  constructor
  · rintro ⟨s, hs, rfl⟩
    exact ⟨mem_sessions.1 hs, rfl⟩
  · rintro ⟨hs, hroutes⟩
    obtain ⟨s, routes⟩ := e
    exact ⟨s, mem_sessions.2 hs, by rw [show routes = _ from hroutes]⟩

/-- The snapshot lists a session exactly when it is live. -/
theorem mem_snapshot_sessions {r : Roster} {s : Session} :
    s ∈ r.snapshot.map (·.session) ↔ r.hasSession s = true := by
  rw [snapshot_sessions]
  exact mem_sessions

/-- The routes of a summary stand in strictly ascending order. -/
theorem routes_ascending {r : Roster} {e : Summary} (he : e ∈ r.snapshot) :
    (e.routes.map (·.1)).Pairwise (fun a b => compare a b = .lt) := by
  rw [(mem_snapshot.1 he).2, List.map_map]
  have hid : ((r.routes e.session).toList.map
      ((·.1) ∘ fun route => (route, r.seatCount e.session route)))
        = (r.routes e.session).toList := List.map_id _
  rw [hid]
  exact (r.routes e.session).ascending

/-- A summary lists the live routes of its session, each with its count. -/
theorem mem_snapshot_routes {r : Roster} {e : Summary} (he : e ∈ r.snapshot)
    {route : Route} {n : Nat} :
    (route, n) ∈ e.routes
      ↔ r.hasRoute e.session route = true ∧ n = r.seatCount e.session route := by
  rw [(mem_snapshot.1 he).2, List.mem_map, ← mem_routes]
  constructor
  · rintro ⟨route', hmem, heq⟩
    injection heq with hroute hcount
    subst hroute
    exact ⟨hmem, hcount.symm⟩
  · rintro ⟨hmem, rfl⟩
    exact ⟨route, hmem, rfl⟩

/-- The routes that the snapshot lists for a session are its live ones. -/
theorem exists_mem_snapshot_routes {r : Roster} {s : Session} {route : Route} :
    (∃ e ∈ r.snapshot, e.session = s ∧ ∃ n, (route, n) ∈ e.routes)
      ↔ r.hasRoute s route = true := by
  constructor
  · rintro ⟨e, he, rfl, n, hn⟩
    exact ((mem_snapshot_routes he).1 hn).1
  · intro h
    obtain ⟨e, he, rfl⟩ :=
      List.mem_map.1 (mem_snapshot_sessions.2 (hasSession_of_hasRoute h))
    exact ⟨e, he, rfl, _, (mem_snapshot_routes he).2 ⟨h, rfl⟩⟩

/-! ## §4. The sessions of an endpoint. -/

theorem mem_sessionsOf {r : Roster} {h : Handle} {s : Session} :
    s ∈ r.sessionsOf h ↔ (⟨h, s⟩ : Attribution) ∈ r.index := by
  unfold sessionsOf
  rw [List.mem_map]
  constructor
  · rintro ⟨⟨h', s'⟩, ha, rfl⟩
    obtain ⟨hmem, hh⟩ := List.mem_filter.1 ha
    obtain rfl : h' = h := of_decide_eq_true hh
    exact hmem
  · intro hmem
    exact ⟨⟨h, s⟩, List.mem_filter.2 ⟨hmem, decide_eq_true rfl⟩, rfl⟩

/-- The sessions of an endpoint are listed in strictly ascending order. -/
theorem sessionsOf_ascending (r : Roster) (h : Handle) :
    (r.sessionsOf h).Pairwise (fun a b => compare a b = .lt) := by
  unfold sessionsOf
  rw [List.pairwise_map]
  refine (r.index.ascending.filter _).imp_of_mem ?_
  intro a b ha hb hlt
  -- the index is ordered by handle first, and here both handles are `h`
  have hsame : compare a.handle b.handle = .eq := by
    rw [show a.handle = h from of_decide_eq_true (List.mem_filter.1 ha).2,
        show b.handle = h from of_decide_eq_true (List.mem_filter.1 hb).2]
    exact Std.ReflOrd.compare_self
  have hthen : (compare a.handle b.handle).then (compare a.session b.session) = .lt := hlt
  rw [hsame] at hthen
  exact hthen

end RoutingSessions.Roster
