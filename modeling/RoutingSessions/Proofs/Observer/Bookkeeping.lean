/-
  RoutingSessions.Proofs.Observer.Bookkeeping — what holds of an observer's books,
  whoever announces what.

  Nothing is asked of the endpoints here: a handle may come back under another topic,
  type or direction, and may be lost from partitions that it never announced.  Seats
  and index may then disagree, but in one direction only: an endpoint may keep a seat
  in a session that it is no longer said to have joined, and never the other way round.

  Kept as nested maps, the books never hold a key without a value, so their keys are
  what is live.

  Main statements:
    * `coherent_apply` — one announcement keeps topics and index right.
    * `inStep_announce` — one announcement keeps the nested maps and the roster in step.
    * `directory_sound` — both, for whole runs.
-/
import RoutingSessions.Proofs.Observer.Reconcile
import RoutingSessions.Proofs.Observer.Run
import RoutingSessions.Proofs.Roster.Directory

namespace RoutingSessions

/-! ## §1. Topics and index. -/

/-- Routes sit in sessions of their topic, and whoever is said to have joined a session has a
seat there. -/
structure Roster.Coherent (r : Roster) : Prop where
  topics : ∀ seat ∈ r.seats, seat.route.topic = seat.session.topic
  index : ∀ x ∈ r.index, ∃ route, (⟨x.session, route, x.handle⟩ : Seat) ∈ r.seats

namespace Announcement

variable {r : Roster}

/-- **One announcement keeps topics and index right**, also if its endpoint had another route
before. -/
theorem coherent_apply (a : Announcement) (hr : r.Coherent) : (a.apply r).1.Coherent := by
  obtain ⟨occurrence, e, ps⟩ := a
  have htopic : ∀ seat : Seat, seat.route = e.route → seat.session ∈ ps.map e.session →
      seat.route.topic = seat.session.topic := by
    intro seat hroute hs
    rw [hroute, (mem_map_session.1 hs).1]
    rfl
  cases occurrence with
  | discovered =>
    refine ⟨fun seat hseat => ?_, fun x hx => ?_⟩
    · rcases Observer.mem_seats_discover.1 hseat with ⟨_, hroute, hs⟩ | hold
      · exact htopic seat hroute hs
      · exact hr.topics seat hold
    · rcases Observer.mem_index_discover.1 hx with ⟨hh, hs⟩ | hold
      · exact ⟨e.route, Observer.mem_seats_discover.2 (.inl ⟨hh, rfl, hs⟩)⟩
      · obtain ⟨route, hseat⟩ := hr.index x hold
        exact ⟨route, Observer.mem_seats_discover.2 (.inr hseat)⟩
  | modified =>
    refine ⟨fun seat hseat => ?_, fun x hx => ?_⟩
    · rcases Observer.mem_seats_modify.1 hseat with ⟨_, hroute, hs, _⟩ | ⟨_, hold⟩
      · exact htopic seat hroute hs
      · exact hr.topics seat hold
    · rcases Observer.mem_index_modify.1 hx with ⟨hh, hs⟩ | ⟨hh, hold⟩
      · obtain ⟨h, s⟩ := x
        obtain rfl : h = e.handle := hh
        by_cases hin : (⟨e.handle, s⟩ : Attribution) ∈ r.index
        · -- it stays where it sits, at whatever route that is
          obtain ⟨route, hseat⟩ := hr.index _ hin
          exact ⟨route, Observer.mem_seats_modify.2 (.inr ⟨fun hgone => hgone.2.2.2 hs, hseat⟩)⟩
        · exact ⟨e.route, Observer.mem_seats_modify.2 (.inl ⟨rfl, rfl, hs, hin⟩)⟩
      · obtain ⟨route, hseat⟩ := hr.index x hold
        exact ⟨route, Observer.mem_seats_modify.2 (.inr ⟨fun hgone => hh hgone.1, hseat⟩)⟩
  | lost =>
    refine ⟨fun seat hseat => hr.topics seat (Observer.mem_seats_lose.1 hseat).2, fun x hx => ?_⟩
    -- the index entry goes with the session, so what is left of it has its seat still
    obtain ⟨hkept, hold⟩ := Observer.mem_index_lose.1 hx
    obtain ⟨route, hseat⟩ := hr.index x hold
    exact ⟨route, Observer.mem_seats_lose.2 ⟨fun hgone => hkept ⟨hgone.1, hgone.2.2⟩, hseat⟩⟩

theorem coherent_applyAll (as : List Announcement) (hr : r.Coherent) :
    (applyAll as r).1.Coherent := by
  induction as generalizing r with
  | nil => exact hr
  | cons a as ih => exact ih (a.coherent_apply hr)

end Announcement

theorem Roster.coherent_empty : Roster.empty.Coherent where
  topics _ hseat := absurd hseat (OrderedSet.not_mem_empty _)
  index _ hx := absurd hx (OrderedSet.not_mem_empty _)

/-! ## §2. Announcements to a directory. -/

namespace Directory

/-- What an announcement does to the directory. -/
def announce (a : Announcement) (d : Directory) : Directory × List Change :=
  let wanted := a.partitions.map a.endpoint.session
  match a.occurrence with
  | .discovered => forEach (join a.handle · a.route) wanted d
  | .lost => forEach (leave a.handle · a.route) wanted d
  | .modified =>
    let current := (valueAt a.handle d.joined).toList
    let left := forEach (leave a.handle · a.route) (current.filter fun s => decide (s ∉ wanted)) d
    let joined := forEach (join a.handle · a.route)
      (wanted.filter fun s => decide (s ∉ current)) left.1
    (joined.1, left.2 ++ joined.2)

/-- What announcements do to the directory, one after the other. -/
def announceAll : List Announcement → Directory → Directory × List Change
  | [], d => (d, [])
  | a :: as, d =>
    let first := announce a d
    let rest := announceAll as first.1
    (rest.1, first.2 ++ rest.2)

/-- The directory holds what the roster holds, and no key without a value. -/
structure InStep (d : Directory) (r : Roster) : Prop where
  tidy : Tidy d
  lists : Lists d r

variable {d : Directory} {r : Roster}

theorem inStep_empty : InStep empty .empty := ⟨tidy_empty, lists_empty⟩

/-- There is one directory in step with a roster. -/
theorem InStep.eq {d' : Directory} (hd : InStep d r) (hd' : InStep d' r) : d = d' := by
  have hsessions : d.sessions = d'.sessions := by
    refine hd.tidy.sessions.ext hd'.tidy.sessions fun s => ?_
    refine (hd.tidy.routes s).ext (hd'.tidy.routes s) fun route => OrderedSet.ext fun h => ?_
    exact (hd.lists.seats s route h).trans (hd'.lists.seats s route h).symm
  have hjoined : d.joined = d'.joined := by
    refine hd.tidy.joined.ext hd'.tidy.joined fun h => OrderedSet.ext fun s => ?_
    exact (hd.lists.index h s).trans (hd'.lists.index h s).symm
  cases d
  cases d'
  cases hsessions
  cases hjoined
  rfl

/-- Operations that keep directory and roster in step do so for several sessions. -/
theorem inStep_forEach {act : Session → Directory → Directory × List Change}
    {act' : Session → Roster → Roster × List Change}
    (hact : ∀ s d r, InStep d r → InStep (act s d).1 (act' s r).1 ∧ (act s d).2 = (act' s r).2)
    (ss : List Session) (hd : InStep d r) :
    InStep (forEach act ss d).1 (Roster.forEach act' ss r).1
      ∧ (forEach act ss d).2 = (Roster.forEach act' ss r).2 := by
  induction ss generalizing d r with
  | nil => exact ⟨hd, rfl⟩
  | cons s ss ih =>
    obtain ⟨hfirst, hchanges⟩ := hact s d r hd
    obtain ⟨hrest, hmore⟩ := ih hfirst
    refine ⟨hrest, ?_⟩
    show (act s d).2 ++ (forEach act ss (act s d).1).2 = _
    rw [hchanges, hmore]
    rfl

theorem inStep_join (h : Handle) (route : Route) (s : Session) (d : Directory) (r : Roster)
    (hd : InStep d r) : InStep (d.join h s route).1 (r.join h s route).1
      ∧ (d.join h s route).2 = (r.join h s route).2 :=
  ⟨⟨hd.tidy.join, hd.lists.join⟩, changes_join hd.tidy hd.lists⟩

theorem inStep_leave (h : Handle) (route : Route) (s : Session) (d : Directory) (r : Roster)
    (hd : InStep d r) : InStep (d.leave h s route).1 (r.leave h s route).1
      ∧ (d.leave h s route).2 = (r.leave h s route).2 :=
  ⟨⟨hd.tidy.leave, hd.lists.leave⟩, changes_leave hd.tidy hd.lists⟩

/-- The sessions that an endpoint has joined are listed alike. -/
theorem InStep.toList_joined (hd : InStep d r) (h : Handle) :
    (valueAt h d.joined).toList = r.sessionsOf h := by
  refine OrderedSet.eq_of_ascending (OrderedSet.ascending _) (r.sessionsOf_ascending h) fun s => ?_
  rw [Roster.mem_sessionsOf]
  exact hd.lists.index h s

/-- **One announcement keeps the nested maps and the roster in step**, and is reported alike. -/
theorem inStep_announce (a : Announcement) (hd : InStep d r) :
    InStep (announce a d).1 (a.apply r).1 ∧ (announce a d).2 = (a.apply r).2 := by
  obtain ⟨occurrence, e, ps⟩ := a
  cases occurrence with
  | discovered => exact inStep_forEach (inStep_join e.handle e.route) _ hd
  | lost => exact inStep_forEach (inStep_leave e.handle e.route) _ hd
  | modified =>
    -- both start from the same list of sessions
    have hcurrent : (valueAt e.handle d.joined).toList = r.sessionsOf e.handle :=
      hd.toList_joined e.handle
    obtain ⟨hleft, hdeleted⟩ := inStep_forEach (inStep_leave e.handle e.route)
      ((r.sessionsOf e.handle).filter fun s => decide (s ∉ ps.map e.session)) hd
    obtain ⟨hjoined, hcreated⟩ := inStep_forEach (inStep_join e.handle e.route)
      ((ps.map e.session).filter fun s => decide (s ∉ r.sessionsOf e.handle)) hleft
    simp only [announce, Announcement.apply, Observer.reconcile, Observer.modify]
    unfold Announcement.handle Announcement.route
    rw [hcurrent]
    exact ⟨hjoined, by rw [hdeleted, hcreated]⟩

theorem inStep_announceAll (as : List Announcement) (hd : InStep d r) :
    InStep (announceAll as d).1 (Announcement.applyAll as r).1
      ∧ (announceAll as d).2 = (Announcement.applyAll as r).2 := by
  induction as generalizing d r with
  | nil => exact ⟨hd, rfl⟩
  | cons a as ih =>
    obtain ⟨hfirst, hchanges⟩ := inStep_announce a hd
    obtain ⟨hrest, hmore⟩ := ih hfirst
    refine ⟨hrest, ?_⟩
    show (announce a d).2 ++ (announceAll as (announce a d).1).2 = _
    rw [hchanges, hmore]
    rfl

/-! ## §3. Sound directories. -/

/-- The keys stand for something on every level, routes are in sessions of their topic, and
whoever is said to have joined a session is a member of one of its routes. -/
structure Sound (d : Directory) : Prop where
  sessions : ∀ s seating, d.sessions.lookup s = some seating → ∃ route, route ∈ seating
  routes : ∀ s seating route seated, d.sessions.lookup s = some seating →
    seating.lookup route = some seated → ∃ h, h ∈ seated
  joined : ∀ h ss, d.joined.lookup h = some ss → ∃ s, s ∈ ss
  topics : ∀ s seating route, d.sessions.lookup s = some seating → route ∈ seating →
    route.topic = s.topic
  index : ∀ h ss s, d.joined.lookup h = some ss → s ∈ ss →
    ∃ seating route seated, d.sessions.lookup s = some seating
      ∧ seating.lookup route = some seated ∧ h ∈ seated

/-- The keys on the way to a member. -/
theorem Seats.exists_lookup {s : Session} {route : Route} {h : Handle} (hin : d.Seats s route h) :
    ∃ seating seated, d.sessions.lookup s = some seating
      ∧ seating.lookup route = some seated ∧ h ∈ seated := by
  unfold Seats valueAt at hin
  cases hs : d.sessions.lookup s with
  | none =>
    rw [hs] at hin
    exact absurd hin (OrderedSet.not_mem_empty h)
  | some seating =>
    rw [hs] at hin
    change h ∈ (seating.lookup route).getD ∅ at hin
    cases hroute : seating.lookup route with
    | none =>
      rw [hroute] at hin
      exact absurd hin (OrderedSet.not_mem_empty h)
    | some seated =>
      rw [hroute] at hin
      exact ⟨seating, seated, rfl, hroute, hin⟩

/-- A directory in step with a coherent roster is sound. -/
theorem InStep.sound (hd : InStep d r) (hr : r.Coherent) : Sound d where
  sessions s seating hs := by
    have hlive : r.hasSession s = true :=
      (hd.lists.mem_sessions hd.tidy).1 (Finmap.mem_of_lookup_eq_some hs)
    obtain ⟨route, hroute⟩ := Roster.exists_hasRoute_of_hasSession hlive
    have hmem := (hd.lists.mem_routes hd.tidy).2 hroute
    rw [valueAt_of_lookup hs] at hmem
    exact ⟨route, hmem⟩
  routes s seating route seated hs hroute := by
    have hfilled := hd.tidy.routes s
    rw [valueAt_of_lookup hs] at hfilled
    exact OrderedSet.ne_empty_iff.1 (hfilled route seated hroute)
  joined h ss hss := OrderedSet.ne_empty_iff.1 (hd.tidy.joined h ss hss)
  topics s seating route hs hmem := by
    rw [← valueAt_of_lookup hs] at hmem
    obtain ⟨h, hseat⟩ := Roster.hasRoute_iff.1 ((hd.lists.mem_routes hd.tidy).1 hmem)
    exact hr.topics _ hseat
  index h ss s hss hmem := by
    have hatt : d.Attributes h s := by
      unfold Attributes
      rw [valueAt_of_lookup hss]
      exact hmem
    obtain ⟨route, hseat⟩ := hr.index _ ((hd.lists.index h s).1 hatt)
    obtain ⟨seating, seated, hs, hroute, hin⟩ := ((hd.lists.seats s route h).2 hseat).exists_lookup
    exact ⟨seating, route, seated, hs, hroute, hin⟩

end Directory

/-! ## §4. Whole runs. -/

namespace Observer

open Directory

/-- Topics and index are right after any run. -/
theorem coherent_runAll (filters : List Filter) (steps : List Step) :
    (runAll steps (new filters)).1.roster.Coherent := by
  rw [roster_runAll]
  exact Announcement.coherent_applyAll _ Roster.coherent_empty

/-- **The books are sound, whoever announces what.**  Keep the seats as maps from sessions to
routes to handles, and the index as a map from handles to sessions.  After any run these maps hold
the seats and the index of the roster, their keys are the sessions and routes of the snapshot, and
the changes reported on the way are the same.  No key is without a value on any level, every route
has the topic of its session, and an endpoint is a member in each session that it is said to have
joined. -/
theorem directory_sound (filters : List Filter) (steps : List Step) :
    let r := (runAll steps (new filters)).1.roster
    let kept := announceAll (announcements steps (new filters)) .empty
    kept.1.Sound
      ∧ kept.2 = (runAll steps (new filters)).2
      ∧ (∀ s route h, kept.1.Seats s route h ↔ (⟨s, route, h⟩ : Seat) ∈ r.seats)
      ∧ (∀ h s, kept.1.Attributes h s ↔ s ∈ r.sessionsOf h)
      ∧ (∀ s, s ∈ kept.1.sessions ↔ s ∈ r.snapshot.map (·.session))
      ∧ ∀ s seating, kept.1.sessions.lookup s = some seating → ∀ route,
          route ∈ seating ↔ ∃ e ∈ r.snapshot, e.session = s ∧ ∃ n, (route, n) ∈ e.routes := by
  intro r kept
  have hall := inStep_announceAll (announcements steps (new filters)) inStep_empty
  have hr : (Announcement.applyAll (announcements steps (new filters)) .empty).1 = r :=
    (roster_runAll steps (new filters)).symm
  rw [hr] at hall
  obtain ⟨hstep, hchanges⟩ := hall
  have hcoherent : r.Coherent := by
    rw [← hr]
    exact Announcement.coherent_applyAll _ Roster.coherent_empty
  refine ⟨hstep.sound hcoherent, ?_, hstep.lists.seats, fun h s => ?_, fun s => ?_,
    fun s seating hs route => ?_⟩
  · rw [changes_runAll]
    exact hchanges
  · rw [Roster.mem_sessionsOf]
    exact hstep.lists.index h s
  · rw [Roster.mem_snapshot_sessions]
    exact hstep.lists.mem_sessions hstep.tidy
  · rw [Roster.exists_mem_snapshot_routes, ← hstep.lists.mem_routes hstep.tidy,
      valueAt_of_lookup hs]

end Observer

end RoutingSessions
