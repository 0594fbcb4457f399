/-
  RoutingSessions.Proofs.Observer.Sojourn — an endpoint that comes and goes leaves no
  trace.

  While the endpoint is there, others find sessions and routes alive that they would
  otherwise create, and leave alive what they would otherwise delete, so two runs with
  and without it report different changes.  What the roster holds of the others is the
  same in both, and of the endpoint itself nothing is left when it goes.  Kept as nested
  maps the books are the same too: no key stays behind.

  Main statements:
    * `runAll_withRoster` — a run from another roster, with the same filters.
    * `roster_of_sojourn` — announcements between the arrival of an endpoint and its
      departure.
    * `loss_undoes_discovery` — the same for whole runs, roster and nested maps.
-/
import RoutingSessions.Proofs.Observer.Bookkeeping
import RoutingSessions.Proofs.Observer.Interleaving

namespace RoutingSessions

/-! ## §1. Endpoints that are not there. -/

/-- The endpoint has no seat and has joined nothing. -/
structure Roster.Absent (h : Handle) (r : Roster) : Prop where
  seats : ∀ seat ∈ r.seats, seat.handle ≠ h
  index : ∀ x ∈ r.index, x.handle ≠ h

namespace Announcement

open Roster

variable {h : Handle} {r r' : Roster} {as : List Announcement}

/-- Announcements keep apart or together what rosters hold of an endpoint. -/
theorem agreeOn_applyAll_congr (as : List Announcement) (hr : AgreeOn h r r') :
    AgreeOn h (applyAll as r).1 (applyAll as r').1 :=
  (agreeOn_applyAll as hr).trans (agreeOn_applyAll as (.refl h r')).symm

/-- Others leave an endpoint where it is. -/
theorem agreeOn_applyAll_of_ne (hothers : ∀ a ∈ as, a.handle ≠ h) (r : Roster) :
    AgreeOn h (applyAll as r).1 r := by
  have hnone : as.filter (·.handle = h) = [] :=
    List.filter_eq_nil_iff.2 fun a ha => by simpa using hothers a ha
  have hagree := agreeOn_applyAll as (.refl h r)
  rw [hnone] at hagree
  exact hagree

/-- An endpoint that was not there is not there after it has come and gone. -/
theorem agreeOn_lost_discovered {e : Endpoint} {ps : List String} (habsent : Absent e.handle r) :
    AgreeOn e.handle (Observer.lose e ps (Observer.discover e ps r).1).1 r := by
  constructor
  · intro seat hown
    rw [Observer.mem_seats_lose, Observer.mem_seats_discover]
    have hout : seat ∉ r.seats := fun hin => habsent.seats seat hin hown
    tauto
  · intro x hown
    rw [Observer.mem_index_lose, Observer.mem_index_discover]
    have hout : x ∉ r.index := fun hin => habsent.index x hin hown
    tauto

/-- **Announcements of others between the arrival and the departure of an endpoint end in the
roster in which they would end without it.** -/
theorem roster_of_sojourn {e : Endpoint} {ps : List String} (habsent : Absent e.handle r)
    (hothers : ∀ a ∈ as, a.handle ≠ e.handle) :
    (Observer.lose e ps (applyAll as (Observer.discover e ps r).1).1).1 = (applyAll as r).1 := by
  let arrival : Announcement := ⟨.discovered, e, ps⟩
  let departure : Announcement := ⟨.lost, e, ps⟩
  show (departure.apply (applyAll as (arrival.apply r).1).1).1 = _
  refine eq_of_agreeOn fun h => ?_
  by_cases hh : h = e.handle
  · -- of the endpoint itself both hold what the roster held at first, which is nothing
    subst hh
    have hthrough : AgreeOn e.handle (applyAll as (arrival.apply r).1).1 (arrival.apply r).1 :=
      agreeOn_applyAll_of_ne hothers _
    have hgone : AgreeOn e.handle (departure.apply (arrival.apply r).1).1 r :=
      agreeOn_lost_discovered habsent
    exact ((agreeOn_apply (a := departure) hthrough).trans hgone).trans
      (agreeOn_applyAll_of_ne hothers r).symm
  · -- and the others do not notice that it came and went
    have hcame : AgreeOn h (arrival.apply r).1 r := agreeOn_apply_of_ne (Ne.symm hh) r
    exact (agreeOn_apply_of_ne (a := departure) (Ne.symm hh) _).trans
      (agreeOn_applyAll_congr as hcame)

end Announcement

/-! ## §2. Runs from another roster. -/

namespace Observer

open Announcement

/-- The observer with another roster. -/
def withRoster (o : Observer) (r : Roster) : Observer := { o with roster := r }

/-- What no filter ignores is done to the roster. -/
theorem notice_of_heard {o : Observer} {n : Notification} (hheard : ¬o.ignores n.endpoint = true) :
    (o.notice n).1
      = o.withRoster (reconcile n.occurrence n.endpoint (o.admitted n.endpoint) o.roster).1 :=
  congrArg Prod.fst (if_neg hheard)

/-- The filters are asked as before, and what they let through is done to the other roster. -/
theorem run_withRoster (step : Step) (o : Observer) (r : Roster) :
    ((o.withRoster r).run step).1
      = (o.run step).1.withRoster (applyAll (o.announced? step).toList r).1 := by
  cases step with
  | notice n =>
    show ((o.withRoster r).notice n).1 = (o.notice n).1.withRoster _
    by_cases hign : o.ignores n.endpoint = true
    · have hnone : o.announced? (.notice n) = none := if_pos hign
      have hsame : o.notice n = (o, []) := if_pos hign
      have hother : (o.withRoster r).notice n = (o.withRoster r, []) := if_pos hign
      rw [hnone, hsame, hother]
      rfl
    · have hsome : o.announced? (.notice n)
          = some ⟨n.occurrence, n.endpoint, o.admitted n.endpoint⟩ := if_neg hign
      have hsame := notice_of_heard hign
      have hother := notice_of_heard (o := o.withRoster r) hign
      rw [hsome, hsame, hother]
      rfl
  | watch p => rfl
  | unwatch p => rfl

/-- **A run from another roster hears the same announcements**, and differs in the roster alone. -/
theorem runAll_withRoster (steps : List Step) (o : Observer) (r : Roster) :
    (runAll steps (o.withRoster r)).1
      = (runAll steps o).1.withRoster (applyAll (announcements steps o) r).1 := by
  induction steps generalizing o r with
  | nil => rfl
  | cons step steps ih =>
    show (runAll steps ((o.withRoster r).run step).1).1 = _
    rw [run_withRoster, ih, announcements, applyAll_append]
    rfl

/-! ## §3. Whole runs. -/

/-- What is announced is announced of endpoints that were notified of. -/
theorem handle_ne_of_mem_announcements {o : Observer} {steps : List Step} {h : Handle}
    (hothers : ∀ n ∈ notifications steps, n.endpoint.handle ≠ h) (hkeep : KeepsVerdicts steps o) :
    ∀ a ∈ announcements steps o, a.handle ≠ h := by
  intro a ha
  rw [announcements_eq_filterMap hkeep] at ha
  obtain ⟨n, hn, hheard⟩ := List.mem_filterMap.1 ha
  rw [handle_of_heard hheard]
  exact hothers n hn

/-- An observer during whose run no verdict changes ends as it would without an endpoint that
comes before the run and goes after it. -/
theorem runAll_sojourn {o : Observer} {steps : List Step} {e : Endpoint}
    (habsent : o.roster.Absent e.handle)
    (hothers : ∀ n ∈ notifications steps, n.endpoint.handle ≠ e.handle)
    (hkeep : KeepsVerdicts steps o) :
    (runAll (.notice ⟨.discovered, e⟩ :: (steps ++ [.notice ⟨.lost, e⟩])) o).1
      = (runAll steps o).1 := by
  have hlast : SameVerdicts o (runAll steps o).1 := by
    have h := hkeep steps.length
    rw [List.take_length] at h
    exact h
  show (runAll (steps ++ [.notice ⟨.lost, e⟩]) (o.notice ⟨.discovered, e⟩).1).1 = _
  rw [runAll_append]
  show ((runAll steps (o.notice ⟨.discovered, e⟩).1).1.notice ⟨.lost, e⟩).1 = _
  by_cases hign : o.ignores e = true
  · -- the endpoint is ignored when it comes, and still is when it goes
    have hcame : o.notice ⟨.discovered, e⟩ = (o, []) := if_pos hign
    have hgone : (runAll steps o).1.notice ⟨.lost, e⟩ = ((runAll steps o).1, []) :=
      if_pos ((hlast.ignores e).trans hign)
    rw [hcame, hgone]
  · have hcame : (o.notice ⟨.discovered, e⟩).1
        = o.withRoster (discover e (o.admitted e) o.roster).1 := notice_of_heard hign
    rw [hcame, runAll_withRoster]
    set p := (runAll steps o).1 with hp
    set there := (applyAll (announcements steps o) (discover e (o.admitted e) o.roster).1).1
    have hheard : ¬(p.withRoster there).ignores e = true := by
      show ¬p.ignores e = true
      rw [hlast.ignores e]
      exact hign
    have hadmitted : (p.withRoster there).admitted e = o.admitted e := hlast.admitted_eq e
    have hgone : ((p.withRoster there).notice ⟨.lost, e⟩).1
        = p.withRoster (lose e (o.admitted e) there).1 := by
      rw [← hadmitted]
      exact notice_of_heard hheard
    rw [hgone, roster_of_sojourn habsent (handle_ne_of_mem_announcements hothers hkeep),
      ← roster_runAll]
    rfl

/-- **Loss undoes discovery, whatever happens to others in between.**  After any run that has left
nothing of an endpoint, let it be discovered, let others be announced in any way during which no
verdict of the filters changes, and let it be lost.  The observer ends as it would if the others
had been announced alone, with the same seats and the same index; and so do the nested maps, in
which no key is left that would not be there. -/
theorem loss_undoes_discovery (filters : List Filter) (past steps : List Step) (e : Endpoint)
    (habsent : (runAll past (new filters)).1.roster.Absent e.handle)
    (hothers : ∀ n ∈ notifications steps, n.endpoint.handle ≠ e.handle)
    (hkeep : KeepsVerdicts steps (runAll past (new filters)).1) :
    let sojourn := past ++ .notice ⟨.discovered, e⟩ :: (steps ++ [.notice ⟨.lost, e⟩])
    let alone := past ++ steps
    (runAll sojourn (new filters)).1 = (runAll alone (new filters)).1
      ∧ (Directory.announceAll (announcements sojourn (new filters)) .empty).1
        = (Directory.announceAll (announcements alone (new filters)) .empty).1 := by
  intro sojourn alone
  have hsame : (runAll sojourn (new filters)).1 = (runAll alone (new filters)).1 := by
    rw [runAll_append, runAll_append]
    exact runAll_sojourn habsent hothers hkeep
  refine ⟨hsame, ?_⟩
  have hsojourn := (Directory.inStep_announceAll (announcements sojourn (new filters))
    Directory.inStep_empty).1
  have halone := (Directory.inStep_announceAll (announcements alone (new filters))
    Directory.inStep_empty).1
  -- both directories are in step with the same roster
  have hroster : (applyAll (announcements sojourn (new filters)) .empty).1
      = (applyAll (announcements alone (new filters)) .empty).1 := by
    have h := congrArg Observer.roster hsame
    rw [roster_runAll, roster_runAll] at h
    exact h
  rw [hroster] at hsojourn
  exact hsojourn.eq halone

/-- A guest in two partitions comes while one of the two has a host; the host moves on to the other
partition and another endpoint comes and goes before the guest leaves. -/
theorem loss_undoes_discovery_guest :
    let host : Endpoint := ⟨.replicate 16 1, .outgoing, "Square", "Shape", ["A"]⟩
    let guest : Endpoint := ⟨.replicate 16 2, .outgoing, "Square", "Shape", ["A", "B"]⟩
    let other : Endpoint := ⟨.replicate 16 3, .incoming, "Square", "Shape", ["B"]⟩
    let past : List Step := [.notice ⟨.discovered, host⟩]
    let between : List Notification := [⟨.modified, { host with partitions := ["B"] }⟩,
      ⟨.discovered, other⟩, ⟨.lost, other⟩]
    let steps : List Step := between.map .notice
    let o := (runAll past (new [])).1
    let sojourn := past ++ .notice ⟨.discovered, guest⟩ :: (steps ++ [.notice ⟨.lost, guest⟩])
    o.roster.Absent guest.handle
      ∧ (∀ n ∈ notifications steps, n.endpoint.handle ≠ guest.handle)
      ∧ KeepsVerdicts steps o
      ∧ (runAll sojourn (new [])).1 = (runAll (past ++ steps) (new [])).1
      ∧ (runAll sojourn (new [])).1.roster.snapshot
        = [⟨⟨"Square", "B"⟩, [(⟨.outgoing, "Square", "Shape"⟩, 1)]⟩]
      ∧ (runAll sojourn (new [])).2 ≠ (runAll (past ++ steps) (new [])).2 := by
  intro host guest other past between steps o sojourn
  have habsent : o.roster.Absent guest.handle := by
    constructor
    · show ∀ seat ∈ o.roster.seats.toList, seat.handle ≠ guest.handle
      decide +kernel
    · show ∀ x ∈ o.roster.index.toList, x.handle ≠ guest.handle
      decide +kernel
  have hothers : ∀ n ∈ notifications steps, n.endpoint.handle ≠ guest.handle := by decide +kernel
  have hkeep : KeepsVerdicts steps o := keepsVerdicts_map_notice between o
  have hends := (loss_undoes_discovery [] past steps guest habsent hothers hkeep).1
  exact ⟨habsent, hothers, hkeep, hends, by decide +kernel, by decide +kernel⟩

end Observer

end RoutingSessions
