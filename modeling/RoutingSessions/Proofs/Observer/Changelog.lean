/-
  RoutingSessions.Proofs.Observer.Changelog — the changes that an observer reports
  are a faithful log of what is live.

  Joining and leaving are the only operations that report changes.  Replayed from
  the resources that were live before, what each reports breaks no rule and ends
  with those that are live after; the rest is putting logs together.

  Main statements:
    * `replay_join`, `replay_leave` — one operation.
    * `nodup_changes` — an announcement reports no two changes of one resource.
    * `replay_applyAll` — any announcements, whatever the filters did.
    * `replay_runAll` — a whole run of an observer that has seen nothing.
    * `resource_ne_of_not_needs` — a resource that is not live around an
      announcement is in none of its changes.
-/
import RoutingSessions.Proofs.Catalog
import RoutingSessions.Proofs.Observer.Reconcile
import RoutingSessions.Proofs.Observer.Run

namespace RoutingSessions

open Catalog

/-! ## §1. What is live. -/

/-- The resources that a seat keeps alive. -/
def Seat.resources (seat : Seat) : List Resource :=
  [.ofSession seat.session, .ofRoute seat.session seat.route]

namespace Roster

/-- The live resources. -/
def live (r : Roster) : Catalog := (r.seats.toList.flatMap Seat.resources).toFinset

theorem mem_live {r : Roster} {k : Resource} : k ∈ r.live ↔ r.needs k = true := by
  have hseat : k ∈ r.live ↔ ∃ seat ∈ r.seats, k ∈ seat.resources := by
    rw [live, List.mem_toFinset, List.mem_flatMap]
    rfl
  rw [hseat]
  obtain ⟨s, route⟩ := k
  cases route with
  | none =>
    show _ ↔ r.hasSession s = true
    rw [hasSession_iff]
    constructor
    · rintro ⟨⟨s', route', h⟩, hmem, hk⟩
      obtain rfl : s = s' := by
        simpa [Seat.resources, Resource.ofSession, Resource.ofRoute] using hk
      exact ⟨_, hmem, rfl⟩
    · rintro ⟨seat, hmem, rfl⟩
      exact ⟨seat, hmem, by simp [Seat.resources, Resource.ofSession]⟩
  | some route =>
    show _ ↔ r.hasRoute s route = true
    rw [hasRoute_iff]
    constructor
    · rintro ⟨⟨s', route', h⟩, hmem, hk⟩
      obtain ⟨rfl, rfl⟩ : s = s' ∧ route = route' := by
        simpa [Seat.resources, Resource.ofSession, Resource.ofRoute] using hk
      exact ⟨h, hmem⟩
    · rintro ⟨h, hmem⟩
      exact ⟨_, hmem, by simp [Seat.resources, Resource.ofRoute]⟩

theorem hasSession_of_mem_live {r : Roster} {k : Resource} (h : k ∈ r.live) :
    r.hasSession k.session = true := by
  rw [mem_live] at h
  obtain ⟨s, route⟩ := k
  cases route with
  | none => exact h
  | some route => exact hasSession_of_hasRoute h

/-- One seat more keeps its session and its route alive, and nothing else. -/
theorem live_eq_insert {more less : Roster} {s : Session} {route : Route} {h : Handle}
    (hseats : ∀ seat, seat ∈ more.seats ↔ seat = ⟨s, route, h⟩ ∨ seat ∈ less.seats) :
    more.live = insert (.ofRoute s route) (insert (.ofSession s) less.live) := by
  ext k
  simp only [live, Finset.mem_insert, List.mem_toFinset, List.mem_flatMap]
  constructor
  · rintro ⟨seat, hmem, hk⟩
    rcases (hseats seat).1 hmem with rfl | hmem
    · simp only [Seat.resources, List.mem_cons, List.not_mem_nil, or_false] at hk
      tauto
    · exact .inr (.inr ⟨seat, hmem, hk⟩)
  · have hnew : (⟨s, route, h⟩ : Seat) ∈ more.seats.toList := (hseats _).2 (.inl rfl)
    rintro (rfl | rfl | ⟨seat, hmem, hk⟩)
    · exact ⟨_, hnew, by simp [Seat.resources]⟩
    · exact ⟨_, hnew, by simp [Seat.resources]⟩
    · exact ⟨seat, (hseats seat).2 (.inr hmem), hk⟩

/-! ## §2. One operation. -/

theorem replay_join (h : Handle) (s : Session) (route : Route) (r : Roster) :
    replay (r.join h s route).2 r.live = some (r.join h s route).1.live := by
  rw [live_eq_insert fun _ => mem_seats_join]
  unfold join
  -- a live route has a live session, so a new session comes with a new route
  by_cases hs : r.hasSession s = true
  · have hsin : .ofSession s ∈ r.live := mem_live.2 hs
    by_cases hr : r.hasRoute s route = true
    · have hrin : .ofRoute s route ∈ r.live := mem_live.2 hr
      simp [hs, hr, Finset.insert_eq_of_mem hsin, Finset.insert_eq_of_mem hrin]
    · have hrout : .ofRoute s route ∉ r.live := fun hmem => hr (mem_live.1 hmem)
      simp [hs, hr, replay_cons, hsin, hrout]
  · have hsout : .ofSession s ∉ r.live := fun hmem => hs (mem_live.1 hmem)
    have hr : ¬r.hasRoute s route = true := fun hr => hs (hasSession_of_hasRoute hr)
    have hrout : .ofRoute s route ∉ insert (.ofSession s) r.live := by
      rw [Finset.mem_insert]
      rintro (heq | hmem)
      · cases heq
      · exact hr (mem_live.1 hmem)
    simp [hs, hr, replay_cons, hsout, hrout]

/-- Deleting what nobody needs any more leaves what somebody needs. -/
theorem replay_vacate (s : Session) (route : Route) (left : Roster) :
    replay ((if left.hasRoute s route then [] else [.deleteRoute s route])
        ++ (if left.hasSession s then [] else [.deleteSession s]))
        (insert (.ofRoute s route) (insert (.ofSession s) left.live))
      = some left.live := by
  by_cases hs : left.hasSession s = true
  · have hsin : .ofSession s ∈ left.live := mem_live.2 hs
    by_cases hr : left.hasRoute s route = true
    · have hrin : .ofRoute s route ∈ left.live := mem_live.2 hr
      simp [hs, hr, Finset.insert_eq_of_mem hsin, Finset.insert_eq_of_mem hrin]
    · have hrout : .ofRoute s route ∉ left.live := fun hmem => hr (mem_live.1 hmem)
      simp [hs, hr, replay_cons, Finset.insert_eq_of_mem hsin, Finset.erase_insert hrout]
  · -- the session goes too, and has no other route by then
    have hnone : ∀ k ∈ left.live, k.session ≠ s := fun k hk hks =>
      hs (hks ▸ hasSession_of_mem_live hk)
    have hsout : .ofSession s ∉ left.live := fun hmem => hnone _ hmem rfl
    have hrout : .ofRoute s route ∉ insert (.ofSession s) left.live := by
      rw [Finset.mem_insert]
      rintro (heq | hmem)
      · cases heq
      · exact hnone _ hmem rfl
    have hr : ¬left.hasRoute s route = true := fun hr => hs (hasSession_of_hasRoute hr)
    have hadmit : Admits (insert (.ofSession s) left.live) (.deleteSession s) := by
      refine ⟨Finset.mem_insert_self _ _, fun k hk hks => ?_⟩
      rcases Finset.mem_insert.1 hk with rfl | hk
      · rfl
      · exact absurd hks (hnone k hk)
    simp only [hs, hr, if_false, Bool.false_eq_true, List.singleton_append]
    rw [replay_cons, if_pos (admits_deleteRoute.2 (Finset.mem_insert_self _ _)), apply_deleteRoute,
        Finset.erase_insert hrout, replay_cons, if_pos hadmit, apply_deleteSession,
        Finset.erase_insert hsout, replay_nil]

theorem replay_leave (h : Handle) (s : Session) (route : Route) (r : Roster) :
    replay (r.leave h s route).2 r.live = some (r.leave h s route).1.live := by
  unfold leave
  by_cases hseat : (⟨s, route, h⟩ : Seat) ∈ r.seats
  · rw [if_pos hseat]
    -- the roster before is the one after with the seat put back
    have hlive : r.live = insert (.ofRoute s route) (insert (.ofSession s)
        (⟨r.seats.erase ⟨s, route, h⟩, r.index.erase ⟨h, s⟩⟩ : Roster).live) := by
      refine live_eq_insert (h := h) fun seat => ?_
      rw [OrderedSet.mem_erase]
      by_cases heq : seat = ⟨s, route, h⟩
      · simp [heq, hseat]
      · simp [heq]
    rw [hlive]
    exact replay_vacate s route _
  · rw [if_neg hseat]
    rfl

theorem replay_forEach {act : Session → Roster → Roster × List Change}
    (hact : ∀ s r, replay (act s r).2 r.live = some (act s r).1.live)
    (ss : List Session) (r : Roster) :
    replay (forEach act ss r).2 r.live = some (forEach act ss r).1.live := by
  induction ss generalizing r with
  | nil => rfl
  | cons s ss ih =>
    show replay ((act s r).2 ++ (forEach act ss (act s r).1).2) r.live = _
    rw [replay_append_of_eq_some (hact s r)]
    exact ih _

/-! ## §3. Which changes an operation reports. -/

theorem eq_of_mem_join {h : Handle} {s : Session} {route : Route} {r : Roster} {c : Change}
    (hc : c ∈ (r.join h s route).2) : c = .createSession s ∨ c = .createRoute s route := by
  unfold join at hc
  rcases List.mem_append.1 hc with hc | hc
  · split at hc
    · cases hc
    · exact .inl (List.mem_singleton.1 hc)
  · split at hc
    · cases hc
    · exact .inr (List.mem_singleton.1 hc)

theorem eq_of_mem_leave {h : Handle} {s : Session} {route : Route} {r : Roster} {c : Change}
    (hc : c ∈ (r.leave h s route).2) : c = .deleteRoute s route ∨ c = .deleteSession s := by
  unfold leave at hc
  split at hc
  · rcases List.mem_append.1 hc with hc | hc
    · split at hc
      · cases hc
      · exact .inl (List.mem_singleton.1 hc)
    · split at hc
      · cases hc
      · exact .inr (List.mem_singleton.1 hc)
  · cases hc

/-- What is reported for several sessions is reported for one of them. -/
theorem exists_of_mem_forEach {act : Session → Roster → Roster × List Change}
    {ss : List Session} {r : Roster} {c : Change} (hc : c ∈ (forEach act ss r).2) :
    ∃ s ∈ ss, ∃ r', c ∈ (act s r').2 := by
  induction ss generalizing r with
  | nil => cases hc
  | cons s ss ih =>
    rcases List.mem_append.1 (show c ∈ (act s r).2 ++ (forEach act ss (act s r).1).2 from hc)
      with hc | hc
    · exact ⟨s, List.mem_cons_self, r, hc⟩
    · obtain ⟨s', hs', r', hc⟩ := ih hc
      exact ⟨s', List.mem_cons_of_mem _ hs', r', hc⟩

/-- To join sessions creates, and creates nothing outside of these. -/
theorem mem_changes_join {h : Handle} {route : Route} {ss : List Session} {r : Roster} {c : Change}
    (hc : c ∈ (forEach (join h · route) ss r).2) :
    c.action = .create ∧ c.resource.session ∈ ss := by
  obtain ⟨s, hs, r', hc⟩ := exists_of_mem_forEach hc
  rcases eq_of_mem_join hc with rfl | rfl
  · exact ⟨rfl, hs⟩
  · exact ⟨rfl, hs⟩

/-- To leave sessions deletes, and deletes nothing outside of these. -/
theorem mem_changes_leave {h : Handle} {route : Route} {ss : List Session} {r : Roster} {c : Change}
    (hc : c ∈ (forEach (leave h · route) ss r).2) :
    c.action = .delete ∧ c.resource.session ∈ ss := by
  obtain ⟨s, hs, r', hc⟩ := exists_of_mem_forEach hc
  rcases eq_of_mem_leave hc with rfl | rfl
  · exact ⟨rfl, hs⟩
  · exact ⟨rfl, hs⟩

end Roster

/-! ## §4. One announcement. -/

namespace Announcement

open Roster

theorem replay_apply (a : Announcement) (r : Roster) :
    replay (a.apply r).2 r.live = some (a.apply r).1.live := by
  obtain ⟨occurrence, e, ps⟩ := a
  cases occurrence with
  | discovered => exact replay_forEach (replay_join e.handle · e.route) _ r
  | lost => exact replay_forEach (replay_leave e.handle · e.route) _ r
  | modified =>
    show replay (Observer.modify e ps r).2 r.live = some (Observer.modify e ps r).1.live
    unfold Observer.modify
    -- what is left comes first, and what is joined is replayed from there
    rw [replay_append_of_eq_some (replay_forEach (replay_leave e.handle · e.route) _ r)]
    exact replay_forEach (replay_join e.handle · e.route) _ _

/-- An announcement reports deletions first, and creations after them, in other sessions. -/
theorem changes_eq_append (a : Announcement) (r : Roster) :
    ∃ deleted created, (a.apply r).2 = deleted ++ created
      ∧ (∀ c ∈ deleted, c.action = .delete) ∧ (∀ c ∈ created, c.action = .create)
      ∧ ∀ c ∈ deleted, ∀ d ∈ created, c.resource.session ≠ d.resource.session := by
  obtain ⟨occurrence, e, ps⟩ := a
  cases occurrence with
  | discovered =>
    exact ⟨[], _, rfl, by simp, fun _ hc => (mem_changes_join hc).1, by simp⟩
  | modified =>
    refine ⟨_, _, rfl, fun _ hc => (mem_changes_leave hc).1, fun _ hc => (mem_changes_join hc).1,
      fun c hc d hd heq => ?_⟩
    -- the sessions that are left are not announced, and those that are joined are
    have hleft := (List.mem_filter.1 (mem_changes_leave hc).2).2
    have hjoined := (List.mem_filter.1 (mem_changes_join hd).2).1
    rw [heq] at hleft
    exact of_decide_eq_true hleft hjoined
  | lost =>
    exact ⟨_, [], (List.append_nil _).symm, fun _ hc => (mem_changes_leave hc).1, by simp, by simp⟩

/-- **No announcement reports two changes of one resource.** -/
theorem nodup_changes (a : Announcement) (r : Roster) : ((a.apply r).2.map (·.resource)).Nodup := by
  obtain ⟨deleted, created, hchanges, hdeleted, hcreated, hapart⟩ := a.changes_eq_append r
  have hreplay := a.replay_apply r
  rw [hchanges] at hreplay ⊢
  obtain ⟨mid, hfirst, hsecond⟩ := replay_append_eq_some.1 hreplay
  rw [List.map_append, List.nodup_append]
  refine ⟨nodup_deletes hdeleted hfirst, nodup_creates hcreated hsecond, fun k hk j hj heq => ?_⟩
  obtain ⟨c, hc, rfl⟩ := List.mem_map.1 hk
  obtain ⟨d, hd, rfl⟩ := List.mem_map.1 hj
  exact hapart c hc d hd (congrArg Resource.session heq)

/-- A resource that is live neither before nor after an announcement is in none of the changes
that the announcement reports. -/
theorem resource_ne_of_not_needs {a : Announcement} {r : Roster} {k : Resource}
    (hbefore : ¬r.needs k = true) (hafter : ¬(a.apply r).1.needs k = true) :
    ∀ c ∈ (a.apply r).2, c.resource ≠ k := by
  obtain ⟨deleted, created, hchanges, hdeleted, hcreated, _⟩ := a.changes_eq_append r
  have hreplay := a.replay_apply r
  rw [hchanges] at hreplay ⊢
  exact resource_ne_of_replay hdeleted hcreated hreplay (fun h => hbefore (mem_live.1 h))
    (fun h => hafter (mem_live.1 h))

/-! ## §5. Whole runs. -/

theorem replay_applyAll (as : List Announcement) (r : Roster) :
    replay (applyAll as r).2 r.live = some (applyAll as r).1.live := by
  induction as generalizing r with
  | nil => rfl
  | cons a as ih =>
    show replay ((a.apply r).2 ++ (applyAll as (a.apply r).1).2) r.live = _
    rw [replay_append_of_eq_some (a.replay_apply r)]
    exact ih _

end Announcement

namespace Observer

theorem nodup_changes_notice (n : Notification) (o : Observer) :
    ((o.notice n).2.map (·.resource)).Nodup := by
  unfold notice
  split
  next => exact List.nodup_nil
  next => exact Announcement.nodup_changes ⟨n.occurrence, n.endpoint, o.admitted n.endpoint⟩ _

theorem replay_run (step : Step) (o : Observer) :
    replay (o.run step).2 o.roster.live = some (o.run step).1.roster.live := by
  rw [roster_run, changes_run]
  exact Announcement.replay_applyAll _ _

/-- A resource that is live neither before nor after a step is in none of its changes. -/
theorem resource_ne_of_not_needs {step : Step} {o : Observer} {k : Resource}
    (hbefore : ¬o.roster.needs k = true) (hafter : ¬(o.run step).1.roster.needs k = true) :
    ∀ c ∈ (o.run step).2, c.resource ≠ k := by
  rw [roster_run] at hafter
  rw [changes_run]
  cases ha : o.announced? step with
  | none =>
    intro c hc
    cases hc
  | some a =>
    rw [ha] at hafter
    have hnone := Announcement.resource_ne_of_not_needs (a := a) hbefore hafter
    simpa [Announcement.applyAll] using hnone

theorem replay_runAll (steps : List Step) (o : Observer) :
    replay (runAll steps o).2 o.roster.live = some (runAll steps o).1.roster.live := by
  rw [roster_runAll, changes_runAll]
  exact Announcement.replay_applyAll _ _

/-- **The changes are a faithful, well-nested log of what is live.**  Whatever is announced and
however the watch list changes in between, replaying the reported changes from the empty catalog
breaks no rule; the catalog holds the sessions and routes of the snapshot, which are those that
someone has a seat at, and each session in it holds a route; and for every resource creations
and deletions take turns, beginning with a creation.  As the run is arbitrary, this holds after
every step of it. -/
theorem changes_faithful (filters : List Filter) (steps : List Step) :
    let done := runAll steps (new filters)
    ∃ live, replay done.2 ∅ = some live
      ∧ (∀ s, .ofSession s ∈ live ↔ s ∈ done.1.roster.snapshot.map (·.session))
      ∧ (∀ s route, .ofRoute s route ∈ live
          ↔ ∃ e ∈ done.1.roster.snapshot, e.session = s ∧ ∃ n, (route, n) ∈ e.routes)
      ∧ (∀ s, .ofSession s ∈ live ↔ ∃ seat ∈ done.1.roster.seats, seat.session = s)
      ∧ (∀ s route, .ofRoute s route ∈ live
          ↔ ∃ h, (⟨s, route, h⟩ : Seat) ∈ done.1.roster.seats)
      ∧ (∀ s, .ofSession s ∈ live → ∃ route, .ofRoute s route ∈ live)
      ∧ ∀ k, Alternates .create ((done.2.filter (·.resource = k)).map (·.action)) := by
  intro done
  have hreplay : replay done.2 ∅ = some done.1.roster.live := replay_runAll steps (new filters)
  refine ⟨done.1.roster.live, hreplay, fun s => ?_, fun s route => ?_, fun s => ?_,
    fun s route => ?_, fun s hs => ?_, fun k => ?_⟩
  · rw [Roster.mem_live, Roster.mem_snapshot_sessions]
    rfl
  · rw [Roster.mem_live, Roster.exists_mem_snapshot_routes]
    rfl
  · rw [Roster.mem_live, Roster.needs_ofSession, Roster.hasSession_iff]
  · rw [Roster.mem_live, Roster.needs_ofRoute, Roster.hasRoute_iff]
  · obtain ⟨route, hroute⟩ := Roster.exists_hasRoute_of_hasSession (Roster.mem_live.1 hs)
    exact ⟨route, Roster.mem_live.2 hroute⟩
  · exact alternates_of_replay hreplay k

end Observer

end RoutingSessions
