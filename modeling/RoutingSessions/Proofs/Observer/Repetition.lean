/-
  RoutingSessions.Proofs.Observer.Repetition — what is announced again is heard once.

  An announcement leaves some sessions and joins others, and how it finds out which
  differs: a discovery and a loss go by what is announced, a modification by the index.
  In each case what was asked for is so when the announcement is done, and an
  announcement of which all is so already changes nothing and reports nothing.  Nothing
  is asked of the roster: an endpoint may have seats at other routes, and may sit in
  sessions that are not on its index.

  Main statements:
    * `settled_apply` — an announcement brings about what it asks for.
    * `apply_of_settled` — and changes nothing where that is so.
    * `repetition_absorbed` — a notification that is repeated, for whole runs.
-/
import RoutingSessions.Proofs.Observer.Bookkeeping
import RoutingSessions.Proofs.Observer.Difference
import RoutingSessions.Proofs.Observer.Interleaving

namespace RoutingSessions

/-! ## §1. Operations that change nothing. -/

namespace Roster

variable {h : Handle} {s : Session} {route : Route} {r : Roster}

/-- An endpoint that has joined a session, and sits there at the route, is not noticed when it
joins again. -/
theorem join_of_mem (hseat : (⟨s, route, h⟩ : Seat) ∈ r.seats)
    (hindex : (⟨h, s⟩ : Attribution) ∈ r.index) : r.join h s route = (r, []) := by
  have hroute : r.hasRoute s route = true := hasRoute_iff.2 ⟨h, hseat⟩
  unfold join
  rw [OrderedSet.insert_of_mem hseat, OrderedSet.insert_of_mem hindex,
    hasSession_of_hasRoute hroute, hroute]
  rfl

/-- An endpoint that has not joined a session, and does not sit there at the route, is not noticed
when it leaves. -/
theorem leave_of_not_mem (hseat : (⟨s, route, h⟩ : Seat) ∉ r.seats)
    (hindex : (⟨h, s⟩ : Attribution) ∉ r.index) : r.leave h s route = (r, []) := by
  unfold leave
  rw [if_neg hseat, OrderedSet.erase_of_not_mem hindex]

theorem forEach_of_forall {act : Session → Roster → Roster × List Change} {ss : List Session}
    (hact : ∀ s ∈ ss, act s r = (r, [])) : forEach act ss r = (r, []) := by
  induction ss with
  | nil => rfl
  | cons s ss ih =>
    have hfirst : act s r = (r, []) := hact s (List.mem_cons_self ..)
    have hrest := ih fun t ht => hact t (List.mem_cons_of_mem s ht)
    rw [forEach, hfirst, hrest]
    rfl

end Roster

/-! ## §2. Announcements. -/

namespace Announcement

open Roster

variable {a : Announcement} {r : Roster}

/-- What the announcement asks for is so: the endpoint is out of the sessions that it is to leave,
and in those that it is to join. -/
structure Settled (a : Announcement) (r : Roster) : Prop where
  left : ∀ s ∈ a.leaves r,
    (⟨s, a.route, a.handle⟩ : Seat) ∉ r.seats ∧ (⟨a.handle, s⟩ : Attribution) ∉ r.index
  joined : ∀ s ∈ a.joins r,
    (⟨s, a.route, a.handle⟩ : Seat) ∈ r.seats ∧ (⟨a.handle, s⟩ : Attribution) ∈ r.index

/-- **An announcement brings about what it asks for**, whatever the roster was like. -/
theorem settled_apply (a : Announcement) (r : Roster) : Settled a (a.apply r).1 := by
  obtain ⟨occurrence, e, ps⟩ := a
  cases occurrence with
  | discovered =>
    refine ⟨fun s hs => absurd hs List.not_mem_nil, fun s hs => ⟨?_, ?_⟩⟩
    · exact Observer.mem_seats_discover.2 (.inl ⟨rfl, rfl, hs⟩)
    · exact Observer.mem_index_discover.2 (.inl ⟨rfl, hs⟩)
  | modified =>
    -- the index holds the announced sessions, so the next comparison finds no difference
    have hindex : ∀ s, s ∈ (Observer.modify e ps r).1.sessionsOf e.handle
        ↔ s ∈ ps.map e.session := by
      intro s
      rw [Roster.mem_sessionsOf, Observer.mem_index_modify]
      simp
    refine ⟨fun s hs => ?_, fun s hs => ?_⟩
    · obtain ⟨hin, hout⟩ := List.mem_filter.1 hs
      exact absurd ((hindex s).1 hin) (of_decide_eq_true hout)
    · obtain ⟨hin, hout⟩ := List.mem_filter.1 hs
      exact absurd ((hindex s).2 hin) (of_decide_eq_true hout)
  | lost =>
    refine ⟨fun s hs => ⟨?_, ?_⟩, fun s hs => absurd hs List.not_mem_nil⟩
    · exact fun hin => (Observer.mem_seats_lose.1 hin).1 ⟨rfl, rfl, hs⟩
    · exact fun hin => (Observer.mem_index_lose.1 hin).1 ⟨rfl, hs⟩

/-- **Where all is so already, an announcement changes nothing and reports nothing.** -/
theorem apply_of_settled (hr : Settled a r) : a.apply r = (r, []) := by
  have hleft : forEach (leave a.handle · a.route) (a.leaves r) r = (r, []) :=
    forEach_of_forall fun s hs => leave_of_not_mem (hr.left s hs).1 (hr.left s hs).2
  have hjoined : forEach (join a.handle · a.route) (a.joins r) r = (r, []) :=
    forEach_of_forall fun s hs => join_of_mem (hr.joined s hs).1 (hr.joined s hs).2
  rw [apply_eq_leave_join, hleft, hjoined]
  rfl

end Announcement

/-! ## §3. Notifications. -/

namespace Observer

open Announcement

variable {o p : Observer} {n : Notification} {steps : List Step}

/-- A notification of which all is so already changes nothing and reports nothing, whether the
filters let it through or not. -/
theorem notice_of_settled (hsettled : ∀ a, o.heard n = some a → Settled a o.roster) :
    o.notice n = (o, []) := by
  rw [heard_eq_ite] at hsettled
  unfold notice
  by_cases hign : o.ignores n.endpoint = true
  · rw [if_pos hign]
  · rw [if_neg hign] at hsettled ⊢
    have hdone : reconcile n.occurrence n.endpoint (o.admitted n.endpoint) o.roster
        = (o.roster, []) := apply_of_settled (hsettled _ rfl)
    rw [hdone]

/-- After a notification all is so that it asks for. -/
theorem settled_notice {a : Announcement} (hheard : o.heard n = some a) :
    Settled a (o.notice n).1.roster := by
  have hroster : (o.notice n).1.roster = (applyAll (o.heard n).toList o.roster).1 :=
    roster_run (.notice n) o
  rw [hroster, hheard]
  exact a.settled_apply o.roster

/-- Observers with the same filters hear the same of a notification if they agree on whether to
ignore its endpoint: the watch list has no say in partitions. -/
theorem heard_eq_of_ignores (hfilters : p.filters = o.filters)
    (hverdict : p.ignores n.endpoint = o.ignores n.endpoint) : p.heard n = o.heard n := by
  have hadmitted : p.admitted n.endpoint = o.admitted n.endpoint := by
    unfold admitted ignoresPartition
    rw [hfilters]
  rw [heard_eq_ite, heard_eq_ite, hverdict, hadmitted]

theorem announcements_of_quiet (hquiet : notifications steps = []) (o : Observer) :
    announcements steps o = [] := by
  induction steps generalizing o with
  | nil => rfl
  | cons step steps ih =>
    cases step with
    | notice n => exact absurd hquiet (List.cons_ne_nil n (notifications steps))
    | watch q => exact ih hquiet (o.watch q)
    | unwatch q => exact ih hquiet (o.unwatch q).1

/-- Changes to the watch list change nothing else. -/
theorem runAll_of_quiet (hquiet : notifications steps = []) (o : Observer) :
    (runAll steps o).1.roster = o.roster ∧ (runAll steps o).2 = [] := by
  rw [roster_runAll, changes_runAll, announcements_of_quiet hquiet]
  exact ⟨rfl, rfl⟩

theorem filters_runAll (steps : List Step) (o : Observer) :
    (runAll steps o).1.filters = o.filters := by
  induction steps generalizing o with
  | nil => rfl
  | cons step steps ih => exact (ih (o.run step).1).trans (filters_run step o)

end Observer

/-! ## §4. Whole runs. -/

/-- Announcements that do the same to the roster do the same to the nested maps. -/
theorem Directory.announceAll_congr {as bs : List Announcement}
    (hsame : Announcement.applyAll as .empty = Announcement.applyAll bs .empty) :
    announceAll as .empty = announceAll bs .empty := by
  obtain ⟨hstep, hchanges⟩ := inStep_announceAll as inStep_empty
  obtain ⟨hstep', hchanges'⟩ := inStep_announceAll bs inStep_empty
  rw [hsame] at hstep hchanges
  exact Prod.ext (hstep.eq hstep') (hchanges.trans hchanges'.symm)

namespace Observer

open Announcement

/-- **What is announced again is heard once.**  Let any run end with a notification, and let
nothing but the watch list change after it, in a way that leaves the verdict on its endpoint as it
was.  The same notification then reports nothing and leaves the observer as it is, with the seats
and the index that it had after the first time; and the nested maps are, key by key, those of the
run that ended with the first. -/
theorem repetition_absorbed (filters : List Filter) (steps between : List Step) (n : Notification)
    (hquiet : notifications between = [])
    (hverdict : (runAll (steps ++ .notice n :: between) (new filters)).1.ignores n.endpoint
      = (runAll steps (new filters)).1.ignores n.endpoint) :
    let once := steps ++ [.notice n]
    let later := steps ++ .notice n :: between
    let p := (runAll later (new filters)).1
    p.notice n = (p, [])
      ∧ p.roster = (runAll once (new filters)).1.roster
      ∧ Directory.announceAll (announcements (later ++ [.notice n]) (new filters)) .empty
        = Directory.announceAll (announcements once (new filters)) .empty := by
  intro once later p
  set o := (runAll steps (new filters)).1
  have honce : runAll once (new filters)
      = ((o.notice n).1, (runAll steps (new filters)).2 ++ ((o.notice n).2 ++ [])) :=
    runAll_append steps [.notice n] (new filters)
  have hlater : runAll later (new filters)
      = ((runAll between (o.notice n).1).1, (runAll steps (new filters)).2
        ++ ((o.notice n).2 ++ (runAll between (o.notice n).1).2)) :=
    runAll_append steps (.notice n :: between) (new filters)
  obtain ⟨hkept, hsilent⟩ := runAll_of_quiet hquiet (o.notice n).1
  have hroster : p.roster = (runAll once (new filters)).1.roster := by
    show (runAll later (new filters)).1.roster = _
    rw [hlater, honce]
    exact hkept
  have hchanges : (runAll later (new filters)).2 = (runAll once (new filters)).2 := by
    rw [hlater, honce, hsilent]
  -- what was heard the first time is heard again, and finds all as it asks for
  have hheard : p.heard n = o.heard n :=
    heard_eq_of_ignores ((filters_runAll later _).trans (filters_runAll steps _).symm) hverdict
  have hagain : p.notice n = (p, []) := by
    refine notice_of_settled fun a ha => ?_
    rw [hroster, honce]
    exact settled_notice (hheard.symm.trans ha)
  refine ⟨hagain, hroster, Directory.announceAll_congr ?_⟩
  have htwice : runAll (later ++ [.notice n]) (new filters)
      = ((p.notice n).1, (runAll later (new filters)).2 ++ ((p.notice n).2 ++ [])) :=
    runAll_append later [.notice n] (new filters)
  show applyAll _ (new filters).roster = applyAll _ (new filters).roster
  rw [← runAll_eq_applyAll, ← runAll_eq_applyAll, htwice, hagain, hchanges, ← hroster]
  simp

/-- An endpoint that has turned from publisher to subscriber turns back, and leaves a seat behind
each time; another participant is put on the watch list before its last notification is repeated. -/
theorem repetition_absorbed_turncoat :
    let turncoat : Endpoint := ⟨.replicate 16 1, .outgoing, "Square", "Shape", ["A"]⟩
    let steps : List Step := [.notice ⟨.discovered, turncoat⟩,
      .notice ⟨.modified, { turncoat with direction := .incoming, partitions := ["B"] }⟩]
    let n : Notification := ⟨.modified, { turncoat with partitions := ["A", "C"] }⟩
    let between : List Step := [.watch (.replicate 12 9)]
    let filters : List Filter := [.watchList]
    let first := runAll (steps ++ [.notice n]) (new filters)
    let p := (runAll (steps ++ .notice n :: between) (new filters)).1
    notifications between = []
      ∧ p.ignores n.endpoint = (runAll steps (new filters)).1.ignores n.endpoint
      ∧ (⟨⟨"Square", "B"⟩, ⟨.incoming, "Square", "Shape"⟩, turncoat.handle⟩ : Seat)
          ∈ first.1.roster.seats
      ∧ (⟨turncoat.handle, ⟨"Square", "B"⟩⟩ : Attribution) ∉ first.1.roster.index
      ∧ first.2.length = 6
      ∧ p.notice n = (p, [])
      ∧ p.roster = first.1.roster := by
  intro turncoat steps n between filters first p
  have hquiet : notifications between = [] := by decide
  have hverdict : p.ignores n.endpoint
      = (runAll steps (new filters)).1.ignores n.endpoint := by decide +kernel
  obtain ⟨hagain, hroster, _⟩ := repetition_absorbed filters steps between n hquiet hverdict
  exact ⟨hquiet, hverdict, by decide +kernel, by decide +kernel, by decide +kernel, hagain, hroster⟩

end Observer

end RoutingSessions
