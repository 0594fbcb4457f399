/-
  RoutingSessions.Proofs.Observer.Interleaving — endpoints do not get in each other's
  way.

  Seats and index are shared by all endpoints, and a route comes to life or dies with
  whoever is seated there.  Still, an announcement reads and writes only what the
  roster holds of its own endpoint, also if the endpoint changes its route and leaves a
  seat behind.  So what the roster holds of an endpoint depends on its own
  announcements alone, and it does not matter how those of different endpoints are
  interleaved.

  Main statements:
    * `agreeOn_apply`, `agreeOn_apply_of_ne` — one announcement, for its own endpoint
      and for the others.
    * `agreeOn_applyAll` — an endpoint is where its own announcements put it.
    * `order_independent` — two interleavings of the same notifications end alike.
-/
import RoutingSessions.Proofs.Observer.Reconcile
import RoutingSessions.Proofs.Observer.Run

namespace RoutingSessions

/-! ## §1. What two rosters hold of one endpoint. -/

namespace Roster

/-- The endpoint has the same seats and the same sessions in both rosters. -/
structure AgreeOn (h : Handle) (r r' : Roster) : Prop where
  seats : ∀ seat : Seat, seat.handle = h → (seat ∈ r.seats ↔ seat ∈ r'.seats)
  index : ∀ a : Attribution, a.handle = h → (a ∈ r.index ↔ a ∈ r'.index)

namespace AgreeOn

variable {h : Handle} {r r' r'' : Roster}

theorem refl (h : Handle) (r : Roster) : AgreeOn h r r := ⟨fun _ _ => Iff.rfl, fun _ _ => Iff.rfl⟩

theorem symm (hr : AgreeOn h r r') : AgreeOn h r' r where
  seats seat hs := (hr.seats seat hs).symm
  index a ha := (hr.index a ha).symm

theorem trans (hr : AgreeOn h r r') (hr' : AgreeOn h r' r'') : AgreeOn h r r'' where
  seats seat hs := (hr.seats seat hs).trans (hr'.seats seat hs)
  index a ha := (hr.index a ha).trans (hr'.index a ha)

end AgreeOn

/-- Rosters that agree on every endpoint are the same. -/
theorem eq_of_agreeOn {r r' : Roster} (hall : ∀ h, AgreeOn h r r') : r = r' := by
  obtain ⟨seats, index⟩ := r
  obtain ⟨seats', index'⟩ := r'
  have hseats : seats = seats' := OrderedSet.ext fun seat => (hall seat.handle).seats seat rfl
  have hindex : index = index' := OrderedSet.ext fun a => (hall a.handle).index a rfl
  rw [hseats, hindex]

end Roster

/-! ## §2. Announcements. -/

namespace Announcement

open Roster

variable {h : Handle} {r r' : Roster}

/-- An announcement does not touch what the roster holds of other endpoints. -/
theorem agreeOn_apply_of_ne {a : Announcement} (hh : a.handle ≠ h) (r : Roster) :
    AgreeOn h (a.apply r).1 r := by
  constructor
  · intro seat hseat
    have hne : seat.handle ≠ a.endpoint.handle := by
      rw [hseat]
      exact hh.symm
    exact Observer.mem_seats_reconcile_of_ne hne
  · intro x hx
    have hne : x.handle ≠ a.endpoint.handle := by
      rw [hx]
      exact hh.symm
    exact Observer.mem_index_reconcile_of_ne hne

/-- What an announcement makes of its own endpoint depends on nothing else in the roster. -/
theorem agreeOn_apply {a : Announcement} (hr : AgreeOn a.handle r r') :
    AgreeOn a.handle (a.apply r).1 (a.apply r').1 := by
  obtain ⟨occurrence, e, ps⟩ := a
  have hseats : ∀ seat : Seat, seat.handle = e.handle → (seat ∈ r.seats ↔ seat ∈ r'.seats) :=
    hr.seats
  have hindex : ∀ x : Attribution, x.handle = e.handle → (x ∈ r.index ↔ x ∈ r'.index) := hr.index
  cases occurrence with
  | discovered =>
    constructor
    · intro seat hseat
      refine Observer.mem_seats_discover.trans (Iff.trans ?_ Observer.mem_seats_discover.symm)
      rw [hseats seat hseat]
    · intro x hx
      refine Observer.mem_index_discover.trans (Iff.trans ?_ Observer.mem_index_discover.symm)
      rw [hindex x hx]
  | modified =>
    constructor
    · intro seat hseat
      refine Observer.mem_seats_modify.trans (Iff.trans ?_ Observer.mem_seats_modify.symm)
      -- the comparison is with the index of the endpoint itself
      rw [hseats seat hseat, hindex ⟨e.handle, seat.session⟩ rfl]
    · intro x hx
      refine Observer.mem_index_modify.trans (Iff.trans ?_ Observer.mem_index_modify.symm)
      rw [hindex x hx]
  | lost =>
    constructor
    · intro seat hseat
      refine Observer.mem_seats_lose.trans (Iff.trans ?_ Observer.mem_seats_lose.symm)
      rw [hseats seat hseat]
    · intro x hx
      refine Observer.mem_index_lose.trans (Iff.trans ?_ Observer.mem_index_lose.symm)
      rw [hindex x hx]

/-- **An endpoint is where its own announcements put it**, whatever others announce in between. -/
theorem agreeOn_applyAll (as : List Announcement) (hr : AgreeOn h r r') :
    AgreeOn h (applyAll as r).1 (applyAll (as.filter (·.handle = h)) r').1 := by
  induction as generalizing r r' with
  | nil => exact hr
  | cons a as ih =>
    show AgreeOn h (applyAll as (a.apply r).1).1 _
    by_cases hh : a.handle = h
    · -- its own announcement is made in both
      subst hh
      rw [List.filter_cons_of_pos (by simp)]
      exact ih (agreeOn_apply hr)
    · -- the announcement of another endpoint is left out on the right, and changes nothing
      rw [List.filter_cons_of_neg (by simpa using hh)]
      exact ih ((agreeOn_apply_of_ne hh r).trans hr)

/-- Announcements that are the same endpoint by endpoint end in the same roster. -/
theorem applyAll_eq_of_filter_eq {as bs : List Announcement}
    (hsame : ∀ h, as.filter (·.handle = h) = bs.filter (·.handle = h)) (r : Roster) :
    (applyAll as r).1 = (applyAll bs r).1 := by
  refine eq_of_agreeOn fun h => ?_
  have hfirst := agreeOn_applyAll as (.refl h r)
  have hsecond := agreeOn_applyAll bs (.refl h r)
  rw [hsame h] at hfirst
  exact hfirst.trans hsecond.symm

end Announcement

/-! ## §3. Runs during which no verdict changes. -/

namespace Observer

/-- The notifications among the steps of a run. -/
def notifications (steps : List Step) : List Notification :=
  steps.filterMap fun step =>
    match step with
    | .notice n => some n
    | .watch _ => none
    | .unwatch _ => none

/-- The announcement that a notification makes, if the filters let it through. -/
def heard (o : Observer) (n : Notification) : Option Announcement := o.announced? (.notice n)

theorem heard_eq_ite (o : Observer) (n : Notification) :
    o.heard n = if o.ignores n.endpoint then none
      else some ⟨n.occurrence, n.endpoint, o.admitted n.endpoint⟩ := rfl

/-- Two observers filter alike. -/
structure SameVerdicts (o p : Observer) : Prop where
  filters : p.filters = o.filters
  ignores : ∀ e, p.ignores e = o.ignores e

/-- At every point of the run, the observer filters as it did at the start. -/
def KeepsVerdicts (steps : List Step) (o : Observer) : Prop :=
  ∀ n, SameVerdicts o (runAll (steps.take n) o).1

theorem filters_run (step : Step) (o : Observer) : (o.run step).1.filters = o.filters := by
  cases step with
  | notice n =>
    show (o.notice n).1.filters = o.filters
    unfold notice
    split <;> rfl
  | watch p => rfl
  | unwatch p => rfl

/-- Notifications change no verdict: only the watch list does. -/
theorem keepsVerdicts_map_notice (ns : List Notification) (o : Observer) :
    KeepsVerdicts (ns.map .notice) o := by
  have hkeep : ∀ ns : List Notification, ∀ p : Observer,
      (runAll (ns.map .notice) p).1.filters = p.filters
        ∧ (runAll (ns.map .notice) p).1.watched = p.watched := by
    intro ns
    induction ns with
    | nil => exact fun p => ⟨rfl, rfl⟩
    | cons n ns ih =>
      intro p
      obtain ⟨hfilters, hwatched⟩ := ih (p.notice n).1
      have hwatch : (p.notice n).1.watched = p.watched := by
        unfold notice
        split <;> rfl
      exact ⟨hfilters.trans (filters_run (.notice n) p), hwatched.trans hwatch⟩
  intro n
  rw [← List.map_take]
  obtain ⟨hfilters, hwatched⟩ := hkeep (ns.take n) o
  refine ⟨hfilters, fun e => ?_⟩
  unfold ignores
  rw [hfilters, hwatched]

namespace SameVerdicts

variable {o p : Observer}

theorem admitted_eq (h : SameVerdicts o p) (e : Endpoint) : p.admitted e = o.admitted e := by
  unfold admitted ignoresPartition
  rw [h.filters]

theorem heard_eq (h : SameVerdicts o p) (n : Notification) : p.heard n = o.heard n := by
  rw [heard_eq_ite, heard_eq_ite, h.ignores, h.admitted_eq]

end SameVerdicts

/-- While no verdict changes, what is announced can be read off the notifications. -/
theorem announcements_eq_filterMap {steps : List Step} {o : Observer}
    (hkeep : KeepsVerdicts steps o) :
    announcements steps o = (notifications steps).filterMap o.heard := by
  -- the first observer's verdicts are those of every later one
  suffices hall : ∀ (steps : List Step) (p : Observer),
      (∀ n, SameVerdicts o (runAll (steps.take n) p).1) →
      announcements steps p = (notifications steps).filterMap o.heard from
    hall steps o hkeep
  intro steps
  induction steps with
  | nil => exact fun p _ => rfl
  | cons step steps ih =>
    intro p hp
    have hnow : SameVerdicts o p := hp 0
    have hrest := ih (p.run step).1 fun n => hp (n + 1)
    rw [announcements, hrest]
    cases step with
    | notice n =>
      show (p.heard n).toList ++ _ = (n :: notifications steps).filterMap o.heard
      rw [hnow.heard_eq]
      cases hn : o.heard n with
      | none => rw [List.filterMap_cons_none hn]; rfl
      | some a => rw [List.filterMap_cons_some hn]; rfl
    | watch q => rfl
    | unwatch q => rfl

/-- An announcement is one of the endpoint that was notified of. -/
theorem handle_of_heard {o : Observer} {n : Notification} {a : Announcement}
    (ha : o.heard n = some a) : a.handle = n.endpoint.handle := by
  rw [heard_eq_ite] at ha
  split at ha
  · cases ha
  · rw [← Option.some.inj ha]
    rfl

/-- The announcements of an endpoint come from the notifications of it. -/
theorem filter_filterMap_heard (o : Observer) (h : Handle) (ns : List Notification) :
    (ns.filterMap o.heard).filter (·.handle = h)
      = (ns.filter (·.endpoint.handle = h)).filterMap o.heard := by
  induction ns with
  | nil => rfl
  | cons n ns ih =>
    cases hn : o.heard n with
    | none =>
      rw [List.filterMap_cons_none hn, ih, List.filter_cons]
      split
      · rw [List.filterMap_cons_none hn]
      · rfl
    | some a =>
      rw [List.filterMap_cons_some hn, List.filter_cons, List.filter_cons, handle_of_heard hn]
      split
      · rw [List.filterMap_cons_some hn, ih]
      · exact ih

/-! ## §4. Two interleavings. -/

/-- Runs that bring each endpoint the same notifications, in the same order for the endpoint, end
in the same roster. -/
theorem roster_eq_of_filter_eq {o : Observer} {first second : List Step}
    (hfirst : KeepsVerdicts first o) (hsecond : KeepsVerdicts second o)
    (hsame : ∀ h, (notifications first).filter (·.endpoint.handle = h)
      = (notifications second).filter (·.endpoint.handle = h)) :
    (runAll first o).1.roster = (runAll second o).1.roster := by
  rw [roster_runAll, roster_runAll, announcements_eq_filterMap hfirst,
    announcements_eq_filterMap hsecond]
  refine Announcement.applyAll_eq_of_filter_eq (fun h => ?_) o.roster
  rw [filter_filterMap_heard, filter_filterMap_heard, hsame h]

/-- **The order in which different endpoints are heard of does not matter.**  Two runs from the
same state, during which no verdict of the filters changes, and which bring each endpoint the
same notifications in the same order, end with the same snapshot, the same number of sessions and
the same sessions for every endpoint.  Nothing is asked of the endpoints: they may change their
topic, type and direction as they like. -/
theorem order_independent {o : Observer} {first second : List Step}
    (hfirst : KeepsVerdicts first o) (hsecond : KeepsVerdicts second o)
    (hsame : ∀ h, (notifications first).filter (·.endpoint.handle = h)
      = (notifications second).filter (·.endpoint.handle = h)) :
    (runAll first o).1.roster.snapshot = (runAll second o).1.roster.snapshot
      ∧ (runAll first o).1.roster.sessionCount = (runAll second o).1.roster.sessionCount
      ∧ ∀ h, (runAll first o).1.roster.sessionsOf h = (runAll second o).1.roster.sessionsOf h := by
  have hroster := roster_eq_of_filter_eq hfirst hsecond hsame
  rw [hroster]
  exact ⟨rfl, rfl, fun _ => rfl⟩

/-- A publisher that turns subscriber and leaves its old seat behind, and one that comes and
goes; first one after the other. -/
def succession : List Notification :=
  let turncoat : Endpoint := ⟨.replicate 16 1, .outgoing, "Square", "Shape", ["A"]⟩
  let guest : Endpoint := ⟨.replicate 16 2, .outgoing, "Square", "Shape", ["A", "B"]⟩
  [⟨.discovered, turncoat⟩,
    ⟨.modified, { turncoat with direction := .incoming, partitions := ["B"] }⟩,
    ⟨.discovered, guest⟩, ⟨.lost, guest⟩]

/-- The same two endpoints, one during the stay of the other. -/
def visit : List Notification :=
  let turncoat : Endpoint := ⟨.replicate 16 1, .outgoing, "Square", "Shape", ["A"]⟩
  let guest : Endpoint := ⟨.replicate 16 2, .outgoing, "Square", "Shape", ["A", "B"]⟩
  [⟨.discovered, guest⟩, ⟨.discovered, turncoat⟩,
    ⟨.modified, { turncoat with direction := .incoming, partitions := ["B"] }⟩,
    ⟨.lost, guest⟩]

theorem order_independent_visit :
    let first := succession.map Step.notice
    let second := visit.map Step.notice
    let o := new [.builtinTopics]
    KeepsVerdicts first o ∧ KeepsVerdicts second o
      ∧ (∀ h, (notifications first).filter (·.endpoint.handle = h)
          = (notifications second).filter (·.endpoint.handle = h))
      ∧ (runAll first o).1.roster.snapshot = (runAll second o).1.roster.snapshot
      ∧ (runAll first o).1.roster.snapshot.length = 2
      ∧ (runAll first o).2 ≠ (runAll second o).2 := by
  intro first second o
  have hfirst : KeepsVerdicts first o := keepsVerdicts_map_notice succession o
  have hsecond : KeepsVerdicts second o := keepsVerdicts_map_notice visit o
  have hsame : ∀ h, (notifications first).filter (·.endpoint.handle = h)
      = (notifications second).filter (·.endpoint.handle = h) := by
    intro h
    simp only [first, second, notifications, succession, visit, List.map_cons, List.map_nil,
      List.filterMap_cons, List.filterMap_nil, List.filter_cons, List.filter_nil,
      decide_eq_true_eq]
    -- only the handles 1 and 2 occur, and the handle cannot be both
    by_cases hone : Octets.replicate 16 1 = h
    · have htwo : Octets.replicate 16 2 ≠ h := by
        rw [← hone]
        decide
      simp [hone, htwo]
    · simp [hone]
  have hends := order_independent hfirst hsecond hsame
  exact ⟨hfirst, hsecond, hsame, hends.1, by decide +kernel, by decide +kernel⟩

end Observer

end RoutingSessions
