/-
  RoutingSessions.Proofs.Observer.Portrait — the roster told endpoint by endpoint.

  The portrait of an endpoint is drawn from its own announcements alone: its route,
  and a set of partitions to which a discovery adds, from which a loss takes, and
  which a modification replaces.  As long as each endpoint keeps its route, the
  portraits of all endpoints together are the roster: seats, index, and everything
  that is read off them.

  Main statements:
    * `portrays_apply` — one announcement keeps roster and portraits in step.
    * `portrays_applyAll` — so do any number of them.
    * `roster_eq_portraits` — the views of an observer's roster, from the portraits.
-/
import RoutingSessions.Proofs.Observer.Reconcile
import RoutingSessions.Proofs.Observer.Run

namespace RoutingSessions

namespace Announcement

/-! ## §1. Portraits. -/

/-- The partitions of an endpoint after one of its announcements. -/
def revise (a : Announcement) (ps : OrderedSet String) : OrderedSet String :=
  match a.occurrence with
  | .discovered => a.partitions.foldl (fun ps p => ps.insert p) ps
  | .modified => .ofList a.partitions
  | .lost => ps.filter fun p => decide (p ∉ a.partitions)

/-- The partitions that an endpoint is in after some announcements. -/
def partitionsOf (h : Handle) (as : List Announcement) : OrderedSet String :=
  (as.filter (·.handle = h)).foldl (fun ps a => a.revise ps) .empty

/-- The route of an endpoint, if it has announced one. -/
def routeOf? (h : Handle) (as : List Announcement) : Option Route :=
  (as.find? (·.handle = h)).map (·.route)

/-- The sessions of an endpoint, in order. -/
def sessionsOf (h : Handle) (as : List Announcement) : List Session :=
  match routeOf? h as with
  | none => []
  | some route => (partitionsOf h as).toList.map (⟨route.topic, ·⟩)

/-- The endpoint is in the session, at that route. -/
def Attends (as : List Announcement) (h : Handle) (s : Session) (route : Route) : Prop :=
  routeOf? h as = some route ∧ s.topic = route.topic ∧ s.partition ∈ partitionsOf h as

instance (as : List Announcement) (h : Handle) (s : Session) (route : Route) :
    Decidable (Attends as h s route) :=
  inferInstanceAs (Decidable (_ ∧ _ ∧ _))

/-- The endpoints that are in the session at that route. -/
def attendants (as : List Announcement) (s : Session) (route : Route) : Finset Handle :=
  (as.map (·.handle)).toFinset.filter fun h => Attends as h s route

/-- Every announcement of an endpoint has the same route. -/
def KeepsRoutes (as : List Announcement) : Prop :=
  ∀ a ∈ as, ∀ b ∈ as, a.handle = b.handle → a.route = b.route

instance (as : List Announcement) : Decidable (KeepsRoutes as) :=
  inferInstanceAs (Decidable (∀ a ∈ as, ∀ b ∈ as, a.handle = b.handle → a.route = b.route))

/-- The list says of each session that has attendants how many it has at each route. -/
structure IsCensus (as : List Announcement) (l : List Roster.Summary) : Prop where
  sessions_ascending : (l.map (·.session)).Pairwise (fun a b => compare a b = .lt)
  mem_sessions : ∀ s, s ∈ l.map (·.session) ↔ ∃ h route, Attends as h s route
  routes_ascending : ∀ e ∈ l, (e.routes.map (·.1)).Pairwise (fun a b => compare a b = .lt)
  mem_routes : ∀ e ∈ l, ∀ route n,
    (route, n) ∈ e.routes ↔ 0 < n ∧ n = (attendants as e.session route).card

/-! ## §2. One more announcement. -/

variable {as : List Announcement} {a : Announcement} {h : Handle} {s : Session} {route : Route}

theorem mem_revise {ps : OrderedSet String} {p : String} :
    p ∈ a.revise ps ↔ match a.occurrence with
      | .discovered => p ∈ a.partitions ∨ p ∈ ps
      | .modified => p ∈ a.partitions
      | .lost => p ∉ a.partitions ∧ p ∈ ps := by
  unfold revise
  cases a.occurrence with
  | discovered => exact OrderedSet.mem_foldl_insert
  | modified => exact OrderedSet.mem_ofList
  | lost => simp [and_comm]

theorem partitionsOf_append_of_eq (hh : a.handle = h) :
    partitionsOf h (as ++ [a]) = a.revise (partitionsOf h as) := by
  simp [partitionsOf, List.filter_append, hh]

theorem partitionsOf_append_of_ne (hh : a.handle ≠ h) :
    partitionsOf h (as ++ [a]) = partitionsOf h as := by
  simp [partitionsOf, List.filter_append, hh]

theorem routeOf?_append_of_ne (hh : a.handle ≠ h) :
    routeOf? h (as ++ [a]) = routeOf? h as := by
  simp [routeOf?, List.find?_append, hh]

theorem routeOf?_append_of_eq (hkeep : KeepsRoutes (as ++ [a])) (hh : a.handle = h) :
    routeOf? h (as ++ [a]) = some a.route := by
  subst hh
  unfold routeOf?
  rw [List.find?_append]
  cases hfind : as.find? (·.handle = a.handle) with
  | none => simp
  | some b =>
    -- the endpoint's first announcement was of the same route
    have hb : b.handle = a.handle := by simpa using List.find?_some hfind
    have hmem : b ∈ as ++ [a] := List.mem_append_left _ (List.mem_of_find?_eq_some hfind)
    simp [hkeep b hmem a (by simp) hb]

theorem KeepsRoutes.of_append {bs : List Announcement} (hkeep : KeepsRoutes (as ++ bs)) :
    KeepsRoutes as := fun a ha b hb =>
  hkeep a (List.mem_append_left _ ha) b (List.mem_append_left _ hb)

/-- An endpoint that has announced nothing is in no partition. -/
theorem not_mem_partitionsOf_of_routeOf?_eq_none (hnone : routeOf? h as = none) (p : String) :
    p ∉ partitionsOf h as := by
  have hfilter : as.filter (·.handle = h) = [] := by
    rw [List.filter_eq_nil_iff]
    exact List.find?_eq_none.1 (Option.map_eq_none_iff.1 hnone)
  unfold partitionsOf
  rw [hfilter]
  exact OrderedSet.not_mem_empty p

/-- Once the endpoint's next route is known to be the same, its partitions alone decide where
it is. -/
theorem attends_iff_of_keepsRoutes (hkeep : KeepsRoutes (as ++ [a])) :
    Attends as a.handle s route
      ↔ route = a.route ∧ s.topic = a.route.topic ∧ s.partition ∈ partitionsOf a.handle as := by
  unfold Attends
  cases hroute : routeOf? a.handle as with
  | none =>
    have hout := not_mem_partitionsOf_of_routeOf?_eq_none hroute s.partition
    simp [hout]
  | some old =>
    obtain ⟨b, hfind, hb⟩ := Option.map_eq_some_iff.1 hroute
    have hmem : b ∈ as ++ [a] := List.mem_append_left _ (List.mem_of_find?_eq_some hfind)
    have hhandle : b.handle = a.handle := by simpa using List.find?_some hfind
    have hold : old = a.route := hb ▸ hkeep b hmem a (by simp) hhandle
    subst hold
    constructor
    · rintro ⟨heq, htopic, hp⟩
      injection heq with heq
      subst heq
      exact ⟨rfl, htopic, hp⟩
    · rintro ⟨rfl, htopic, hp⟩
      exact ⟨rfl, htopic, hp⟩

theorem attends_append_of_eq (hkeep : KeepsRoutes (as ++ [a])) :
    Attends (as ++ [a]) a.handle s route
      ↔ route = a.route ∧ s.topic = a.route.topic
        ∧ s.partition ∈ a.revise (partitionsOf a.handle as) := by
  unfold Attends
  rw [routeOf?_append_of_eq hkeep rfl, partitionsOf_append_of_eq rfl]
  constructor
  · rintro ⟨heq, htopic, hp⟩
    injection heq with heq
    subst heq
    exact ⟨rfl, htopic, hp⟩
  · rintro ⟨rfl, htopic, hp⟩
    exact ⟨rfl, htopic, hp⟩

theorem exists_attends_append (hkeep : KeepsRoutes (as ++ [a])) :
    (∃ route, Attends (as ++ [a]) a.handle s route)
      ↔ s.topic = a.route.topic ∧ s.partition ∈ a.revise (partitionsOf a.handle as) := by
  constructor
  · rintro ⟨route, hatt⟩
    exact ((attends_append_of_eq hkeep).1 hatt).2
  · intro hs
    exact ⟨a.route, (attends_append_of_eq hkeep).2 ⟨rfl, hs⟩⟩

theorem attends_append_of_ne (hh : a.handle ≠ h) :
    Attends (as ++ [a]) h s route ↔ Attends as h s route := by
  unfold Attends
  rw [routeOf?_append_of_ne hh, partitionsOf_append_of_ne hh]

/-! ## §3. Roster and portraits in step. -/

/-- Seats and index of the roster are those of the portraits. -/
structure Portrays (as : List Announcement) (r : Roster) : Prop where
  seats : ∀ seat, seat ∈ r.seats ↔ Attends as seat.handle seat.session seat.route
  index : ∀ x, x ∈ r.index ↔ ∃ route, Attends as x.handle x.session route

theorem portrays_empty : Portrays [] .empty := by
  constructor
  · intro seat
    simp [Roster.empty, Attends, routeOf?]
  · intro x
    simp [Roster.empty, Attends, routeOf?]

section Step

variable {r : Roster} (hr : Portrays as r) (hkeep : KeepsRoutes (as ++ [a]))
include hr hkeep

/-- Where the endpoint of the next announcement sits, in terms of its partitions. -/
theorem Portrays.mem_seats_iff :
    (⟨s, route, a.handle⟩ : Seat) ∈ r.seats
      ↔ route = a.route ∧ s.topic = a.route.topic ∧ s.partition ∈ partitionsOf a.handle as :=
  (hr.seats _).trans (attends_iff_of_keepsRoutes hkeep)

theorem Portrays.mem_index_iff :
    (⟨a.handle, s⟩ : Attribution) ∈ r.index
      ↔ s.topic = a.route.topic ∧ s.partition ∈ partitionsOf a.handle as := by
  refine (hr.index _).trans ⟨?_, fun hs => ?_⟩
  · rintro ⟨route, hatt⟩
    exact ((attends_iff_of_keepsRoutes hkeep).1 hatt).2
  · exact ⟨a.route, (attends_iff_of_keepsRoutes hkeep).2 ⟨rfl, hs⟩⟩

/-- The announcement moves its endpoint to the revised partitions. -/
theorem Portrays.mem_seats_apply :
    (⟨s, route, a.handle⟩ : Seat) ∈ (a.apply r).1.seats
      ↔ route = a.route ∧ s.topic = a.route.topic
        ∧ s.partition ∈ a.revise (partitionsOf a.handle as) := by
  have hseats : ∀ s route, (⟨s, route, a.handle⟩ : Seat) ∈ r.seats ↔ _ :=
    fun _ _ => hr.mem_seats_iff hkeep
  have hindex : ∀ s, (⟨a.handle, s⟩ : Attribution) ∈ r.index ↔ _ :=
    fun _ => hr.mem_index_iff hkeep
  obtain ⟨occurrence, e, ps⟩ := a
  simp only [handle, Announcement.route, Endpoint.topic_route] at hseats hindex ⊢
  rw [mem_revise]
  cases occurrence with
  | discovered =>
    refine Observer.mem_seats_discover.trans ?_
    simp only [hseats, mem_map_session, true_and]
    tauto
  | modified =>
    refine Observer.mem_seats_modify.trans ?_
    simp only [hseats, hindex, mem_map_session, true_and]
    tauto
  | lost =>
    refine Observer.mem_seats_lose.trans ?_
    simp only [hseats, mem_map_session, true_and]
    tauto

theorem Portrays.mem_index_apply :
    (⟨a.handle, s⟩ : Attribution) ∈ (a.apply r).1.index
      ↔ s.topic = a.route.topic ∧ s.partition ∈ a.revise (partitionsOf a.handle as) := by
  have hindex : ∀ s, (⟨a.handle, s⟩ : Attribution) ∈ r.index ↔ _ :=
    fun _ => hr.mem_index_iff hkeep
  obtain ⟨occurrence, e, ps⟩ := a
  simp only [handle, Announcement.route, Endpoint.topic_route] at hindex ⊢
  rw [mem_revise]
  cases occurrence with
  | discovered =>
    refine Observer.mem_index_discover.trans ?_
    simp only [hindex, mem_map_session, true_and]
    tauto
  | modified =>
    refine Observer.mem_index_modify.trans ?_
    simp [mem_map_session]
  | lost =>
    refine Observer.mem_index_lose.trans ?_
    simp only [hindex, mem_map_session, true_and]
    tauto

/-- **One announcement keeps roster and portraits in step**, provided that its endpoint keeps its
route. -/
theorem portrays_apply : Portrays (as ++ [a]) (a.apply r).1 := by
  constructor
  · rintro ⟨s, route, h⟩
    by_cases hh : h = a.handle
    · subst hh
      exact (hr.mem_seats_apply hkeep).trans (attends_append_of_eq hkeep).symm
    · -- the announcement does not touch where others sit
      exact (Observer.mem_seats_reconcile_of_ne hh).trans
        ((hr.seats _).trans (attends_append_of_ne (Ne.symm hh)).symm)
  · rintro ⟨h, s⟩
    by_cases hh : h = a.handle
    · subst hh
      rw [hr.mem_index_apply hkeep]
      exact (exists_attends_append hkeep).symm
    · simp only [attends_append_of_ne (Ne.symm hh)]
      exact (Observer.mem_index_reconcile_of_ne hh).trans (hr.index _)

end Step

/-- **Any announcements keep roster and portraits in step**, as long as endpoints keep their
routes. -/
theorem portrays_applyAll {bs : List Announcement} {r : Roster} (hr : Portrays as r)
    (hkeep : KeepsRoutes (as ++ bs)) : Portrays (as ++ bs) (applyAll bs r).1 := by
  induction bs generalizing as r with
  | nil =>
    rw [List.append_nil]
    exact hr
  | cons b bs ih =>
    -- the next announcement joins those that the roster portrays
    rw [List.append_cons] at hkeep ⊢
    exact ih (portrays_apply hr hkeep.of_append) hkeep

/-! ## §4. The views, from the portraits. -/

theorem mem_attendants : h ∈ attendants as s route ↔ Attends as h s route := by
  unfold attendants
  rw [Finset.mem_filter, List.mem_toFinset, List.mem_map]
  constructor
  · exact fun hmem => hmem.2
  · intro hatt
    obtain ⟨a, hfind, _⟩ := Option.map_eq_some_iff.1 hatt.1
    exact ⟨⟨a, List.mem_of_find?_eq_some hfind, by simpa using List.find?_some hfind⟩, hatt⟩

theorem mem_sessionsOf : s ∈ sessionsOf h as ↔ ∃ route, Attends as h s route := by
  unfold sessionsOf Attends
  cases routeOf? h as with
  | none => simp
  | some route =>
    obtain ⟨topic, p⟩ := s
    simp only [List.mem_map, Session.mk.injEq, Option.some.injEq]
    constructor
    · rintro ⟨q, hq, rfl, rfl⟩
      exact ⟨route, rfl, rfl, hq⟩
    · rintro ⟨_, rfl, rfl, hp⟩
      exact ⟨p, hp, rfl, rfl⟩

theorem sessionsOf_ascending (h : Handle) (as : List Announcement) :
    (sessionsOf h as).Pairwise (fun a b => compare a b = .lt) := by
  unfold sessionsOf
  cases routeOf? h as with
  | none => exact .nil
  | some route =>
    simp only [List.pairwise_map]
    refine (partitionsOf h as).ascending.imp fun {p q} hlt => ?_
    show (compare route.topic route.topic).then (compare p q) = .lt
    rw [Std.ReflOrd.compare_self]
    exact hlt

section Views

variable {r : Roster} (hr : Portrays as r)
include hr

theorem Portrays.sessionsOf_eq (h : Handle) : r.sessionsOf h = sessionsOf h as := by
  refine OrderedSet.eq_of_ascending (r.sessionsOf_ascending h) (sessionsOf_ascending h as)
    fun s => ?_
  rw [Roster.mem_sessionsOf, hr.index, mem_sessionsOf]

theorem Portrays.hasRoute_iff {s : Session} {route : Route} :
    r.hasRoute s route = true ↔ ∃ h, Attends as h s route := by
  rw [Roster.hasRoute_iff]
  simp only [hr.seats]

theorem Portrays.seatCount_eq (s : Session) (route : Route) :
    r.seatCount s route = (attendants as s route).card :=
  Roster.seatCount_eq_card fun h => mem_attendants.trans (hr.seats ⟨s, route, h⟩).symm

/-- The snapshot is a census of the portraits. -/
theorem Portrays.isCensus : IsCensus as r.snapshot := by
  refine ⟨r.snapshot_ascending, fun s => ?_, fun e he => Roster.routes_ascending he,
    fun e he route n => ?_⟩
  · rw [Roster.mem_snapshot_sessions]
    constructor
    · intro hs
      obtain ⟨route, hroute⟩ := Roster.exists_hasRoute_of_hasSession hs
      obtain ⟨h, hatt⟩ := hr.hasRoute_iff.1 hroute
      exact ⟨h, route, hatt⟩
    · rintro ⟨h, route, hatt⟩
      exact Roster.hasSession_of_hasRoute (hr.hasRoute_iff.2 ⟨h, hatt⟩)
  · rw [Roster.mem_snapshot_routes he, hr.seatCount_eq]
    -- a route is live exactly when it has attendants, that is, when their number is positive
    have hpos : r.hasRoute e.session route = true
        ↔ 0 < (attendants as e.session route).card := by
      rw [hr.hasRoute_iff, Finset.card_pos]
      simp only [Finset.Nonempty, mem_attendants]
    rw [hpos]
    constructor
    · rintro ⟨hlt, rfl⟩
      exact ⟨hlt, rfl⟩
    · rintro ⟨hlt, rfl⟩
      exact ⟨hlt, rfl⟩

/-- Nothing is left once every endpoint is in no partition. -/
theorem Portrays.eq_empty (hnone : ∀ h, partitionsOf h as = .empty) : r = .empty := by
  have hout : ∀ h s route, ¬Attends as h s route := by
    rintro h s route ⟨_, _, hp⟩
    rw [hnone h] at hp
    exact OrderedSet.not_mem_empty _ hp
  obtain ⟨seats, index⟩ := r
  have hseats : seats = .empty := OrderedSet.ext fun seat => by
    simp [show seat ∈ seats ↔ _ from hr.seats seat, hout]
  have hindex : index = .empty := OrderedSet.ext fun x => by
    simp [show x ∈ index ↔ _ from hr.index x, hout]
  rw [hseats, hindex]
  rfl

end Views

end Announcement

/-! ## §5. Whole runs. -/

namespace Observer

open Announcement

theorem portrays_runAll {filters : List Filter} {steps : List Step}
    (hkeep : KeepsRoutes (announcements steps (new filters))) :
    Portrays (announcements steps (new filters)) (runAll steps (new filters)).1.roster := by
  rw [roster_runAll]
  have hempty : Portrays [] (new filters).roster := portrays_empty
  exact portrays_applyAll hempty hkeep

/-- **The roster is what the endpoints' own announcements make it.**  In a run in which each
endpoint keeps its route, the sessions of every endpoint are, in ascending order, those of its
topic in the partitions that its own announcements leave it in; it has a seat exactly there, at
its own route; and the snapshot is the census of these endpoints.  Once they are all in no
partition, nothing is left. -/
theorem roster_eq_portraits (filters : List Filter) (steps : List Step)
    (hkeep : KeepsRoutes (announcements steps (new filters))) :
    let as := announcements steps (new filters)
    let r := (runAll steps (new filters)).1.roster
    (∀ h, r.sessionsOf h = sessionsOf h as
        ∧ (r.sessionsOf h).Pairwise (fun a b => compare a b = .lt))
      ∧ (∀ h s route, (⟨s, route, h⟩ : Seat) ∈ r.seats ↔ Attends as h s route)
      ∧ IsCensus as r.snapshot
      ∧ r.sessionCount = r.snapshot.length
      ∧ ((∀ h, partitionsOf h as = .empty) → r = .empty ∧ r.snapshot = []) := by
  intro as r
  have hr : Portrays as r := portrays_runAll hkeep
  refine ⟨fun h => ⟨hr.sessionsOf_eq h, r.sessionsOf_ascending h⟩, fun h s route => hr.seats _,
    hr.isCensus, r.length_snapshot.symm, fun hnone => ?_⟩
  have hempty : r = .empty := hr.eq_empty hnone
  refine ⟨hempty, ?_⟩
  rw [hempty]
  rfl

/-- Two endpoints come to one route; one of them moves on and comes back. -/
def wanderingRun : List Step :=
  let first : Endpoint := ⟨.replicate 16 1, .outgoing, "Square", "Shape", ["A", "B"]⟩
  let second : Endpoint := ⟨.replicate 16 2, .outgoing, "Square", "Shape", ["A"]⟩
  [.notice ⟨.discovered, first⟩, .notice ⟨.discovered, second⟩, .watch (.replicate 12 2),
    .notice ⟨.modified, { first with partitions := ["C"] }⟩,
    .notice ⟨.modified, { first with partitions := ["A", "C"] }⟩,
    .notice ⟨.lost, { first with partitions := ["C"] }⟩]

theorem roster_eq_portraits_wanderingRun :
    KeepsRoutes (announcements wanderingRun (new [.watchList]))
      ∧ (runAll wanderingRun (new [.watchList])).1.roster.sessionsOf (.replicate 16 1)
        = [⟨"Square", "A"⟩] := by
  have hkeep : KeepsRoutes (announcements wanderingRun (new [.watchList])) := by decide
  refine ⟨hkeep, ?_⟩
  rw [((roster_eq_portraits [.watchList] wanderingRun hkeep).1 (.replicate 16 1)).1]
  decide

end Observer

end RoutingSessions
