/-
  RoutingSessions.Proofs.Observer.Run — whole runs of an observer.

  A run is made of notifications and of changes to the watch list, in any order.
  Filters decide which notifications get through, and with which partitions; what
  gets through is an announcement, and the roster depends on the announcements
  alone.

  Main statements:
    * `runAll_append` — a run may be cut anywhere.
    * `roster_runAll`, `changes_runAll` — a run is the sequence of its
      announcements.
-/
import RoutingSessions.Observer

namespace RoutingSessions

/-! ## §1. Announcements. -/

/-- A notification that no filter ignored as a whole, with the partitions that count. -/
structure Announcement where
  occurrence : Occurrence
  endpoint : Endpoint
  /-- The partitions that no filter ignored. -/
  partitions : List String
deriving DecidableEq

namespace Announcement

/-- The endpoint's handle. -/
def handle (a : Announcement) : Handle := a.endpoint.handle

/-- The endpoint's route. -/
def route (a : Announcement) : Route := a.endpoint.route

/-- A session is announced if topic and partition are. -/
theorem mem_map_session {e : Endpoint} {ps : List String} {s : Session} :
    s ∈ ps.map e.session ↔ s.topic = e.topic ∧ s.partition ∈ ps := by
  obtain ⟨topic, p⟩ := s
  rw [List.mem_map]
  constructor
  · rintro ⟨q, hq, heq⟩
    injection heq with htopic hp
    exact ⟨htopic.symm, hp ▸ hq⟩
  · rintro ⟨rfl, hp⟩
    exact ⟨p, hp, rfl⟩

/-- What an announcement does to the roster. -/
def apply (a : Announcement) (r : Roster) : Roster × List Change :=
  Observer.reconcile a.occurrence a.endpoint a.partitions r

/-- What announcements do to the roster, one after the other. -/
def applyAll : List Announcement → Roster → Roster × List Change
  | [], r => (r, [])
  | a :: as, r =>
    let first := a.apply r
    let rest := applyAll as first.1
    (rest.1, first.2 ++ rest.2)

theorem applyAll_append (as bs : List Announcement) (r : Roster) :
    applyAll (as ++ bs) r
      = ((applyAll bs (applyAll as r).1).1,
          (applyAll as r).2 ++ (applyAll bs (applyAll as r).1).2) := by
  induction as generalizing r with
  | nil => rfl
  | cons a as ih =>
    show ((applyAll (as ++ bs) (a.apply r).1).1,
      (a.apply r).2 ++ (applyAll (as ++ bs) (a.apply r).1).2) = _
    rw [ih]
    simp [applyAll, List.append_assoc]

end Announcement

/-! ## §2. Runs. -/

namespace Observer

/-- A step of a run. -/
inductive Step where
  | notice (n : Notification)
  /-- Puts a participant on the watch list. -/
  | watch (p : ParticipantId)
  /-- Takes a participant off the watch list. -/
  | unwatch (p : ParticipantId)
deriving DecidableEq

/-- Takes a step, and reports what is needed from now on or no longer. -/
def run (step : Step) (o : Observer) : Observer × List Change :=
  match step with
  | .notice n => o.notice n
  | .watch p => (o.watch p, [])
  | .unwatch p => ((o.unwatch p).1, [])

/-- Takes steps one after the other, and reports all changes in order. -/
def runAll : List Step → Observer → Observer × List Change
  | [], o => (o, [])
  | step :: steps, o =>
    let first := o.run step
    let rest := runAll steps first.1
    (rest.1, first.2 ++ rest.2)

theorem runAll_append (first second : List Step) (o : Observer) :
    runAll (first ++ second) o
      = ((runAll second (runAll first o).1).1,
          (runAll first o).2 ++ (runAll second (runAll first o).1).2) := by
  induction first generalizing o with
  | nil => rfl
  | cons step steps ih =>
    show ((runAll (steps ++ second) (o.run step).1).1,
      (o.run step).2 ++ (runAll (steps ++ second) (o.run step).1).2) = _
    rw [ih]
    simp [runAll, List.append_assoc]

/-! ## §3. The announcements of a run. -/

/-- The announcement that a step makes, if it is one and the filters let it through. -/
def announced? (o : Observer) : Step → Option Announcement
  | .notice n =>
    if o.ignores n.endpoint then none
    else some ⟨n.occurrence, n.endpoint, o.admitted n.endpoint⟩
  | .watch _ => none
  | .unwatch _ => none

/-- The announcements of a run, in order. -/
def announcements : List Step → Observer → List Announcement
  | [], _ => []
  | step :: steps, o => (o.announced? step).toList ++ announcements steps (o.run step).1

/-- A step does to the roster what its announcement does. -/
theorem run_eq_applyAll (step : Step) (o : Observer) :
    ((o.run step).1.roster, (o.run step).2)
      = Announcement.applyAll (o.announced? step).toList o.roster := by
  cases step with
  | notice n =>
    unfold run announced? notice
    -- an endpoint that is ignored announces nothing, and the roster stays
    by_cases hign : o.ignores n.endpoint = true
    · simp [hign, Announcement.applyAll]
    · simp [hign, Announcement.applyAll, Announcement.apply]
  | watch p => rfl
  | unwatch p => rfl

theorem roster_run (step : Step) (o : Observer) :
    (o.run step).1.roster = (Announcement.applyAll (o.announced? step).toList o.roster).1 :=
  congrArg Prod.fst (run_eq_applyAll step o)

theorem changes_run (step : Step) (o : Observer) :
    (o.run step).2 = (Announcement.applyAll (o.announced? step).toList o.roster).2 :=
  congrArg Prod.snd (run_eq_applyAll step o)

theorem runAll_eq_applyAll (steps : List Step) (o : Observer) :
    ((runAll steps o).1.roster, (runAll steps o).2)
      = Announcement.applyAll (announcements steps o) o.roster := by
  induction steps generalizing o with
  | nil => rfl
  | cons step steps ih =>
    show ((runAll steps (o.run step).1).1.roster,
      (o.run step).2 ++ (runAll steps (o.run step).1).2) = _
    rw [announcements, Announcement.applyAll_append, ← run_eq_applyAll, ← ih]

theorem roster_runAll (steps : List Step) (o : Observer) :
    (runAll steps o).1.roster
      = (Announcement.applyAll (announcements steps o) o.roster).1 :=
  congrArg Prod.fst (runAll_eq_applyAll steps o)

theorem changes_runAll (steps : List Step) (o : Observer) :
    (runAll steps o).2 = (Announcement.applyAll (announcements steps o) o.roster).2 :=
  congrArg Prod.snd (runAll_eq_applyAll steps o)

end Observer

end RoutingSessions
