/-
  RoutingSessions.Proofs.Broadcast — whole runs of an observer and its delivery.

  Subscribers come one after the other, some of them break down, and the delivery
  may be closed before or after that.  Nothing of it reaches the observer, which
  takes the same course as in a run without any of it.  What the observer reports
  in a step reaches everybody in the step, until the first change on which a
  subscriber breaks down, or until the delivery is closed.

  Main statements:
    * `observer_runAll` — the observer takes its own steps, and no others.
    * `runAll_of_stopped` — nothing arrives once the delivery has stopped.
    * `getElem?_runAll` — what a subscriber gets in a run.
    * `run_cases` — what a step does to a running delivery.
    * `delivery_law` — all of it, after every run from the beginning.
-/
import RoutingSessions.Broadcast
import RoutingSessions.Proofs.Delivery
import RoutingSessions.Proofs.Observer.Run

namespace RoutingSessions

namespace Broadcast

open Subscriber

/-! ## §1. Runs. -/

/-- Takes steps one after the other. -/
def runAll : List Step → Broadcast → Broadcast
  | [], b => b
  | step :: steps, b => runAll steps (b.run step).1

theorem runAll_append (first second : List Step) (b : Broadcast) :
    runAll (first ++ second) b = runAll second (runAll first b) := by
  induction first generalizing b with
  | nil => rfl
  | cons step steps ih => exact ih (b.run step).1

/-- The step that the observer takes, if it does. -/
def Step.observed? : Step → Option Observer.Step
  | .notice n => some (.notice n)
  | .watch p => some (.watch p)
  | .unwatch p => some (.unwatch p)
  | .subscribe _ => none
  | .close => none

/-- The step is one of the observer. -/
def Step.isObserved (step : Step) : Bool := step.observed?.isSome

/-- Those who subscribe in the step. -/
def Step.newcomers : Step → List Subscriber
  | .subscribe breaksAt => [⟨.empty, breaksAt⟩]
  | .notice _ => []
  | .watch _ => []
  | .unwatch _ => []
  | .close => []

/-! ## §2. The observer. -/

/-- The changes that the observer reports in the steps. -/
def reported (steps : List Step) (b : Broadcast) : List Change :=
  (Observer.runAll (steps.filterMap Step.observed?) b.observer).2

theorem observer_run (step : Step) (b : Broadcast) :
    (b.run step).1.observer
      = (Observer.runAll ([step].filterMap Step.observed?) b.observer).1 := by
  cases step <;> rfl

theorem observer_runAll (steps : List Step) (b : Broadcast) :
    (runAll steps b).observer
      = (Observer.runAll (steps.filterMap Step.observed?) b.observer).1 := by
  induction steps generalizing b with
  | nil => rfl
  | cons step steps ih =>
    rw [← List.singleton_append, List.filterMap_append, Observer.runAll_append, ← observer_run]
    exact ih (b.run step).1

/-- Steps that are not the observer's may be left out. -/
theorem observer_runAll_filter (steps : List Step) (b : Broadcast) :
    (runAll (steps.filter Step.isObserved) b).observer = (runAll steps b).observer := by
  have hsame : (steps.filter Step.isObserved).filterMap Step.observed?
      = steps.filterMap Step.observed? := by
    rw [List.filterMap_filter]
    congr 1
    funext step
    cases step <;> rfl
  rw [observer_runAll, observer_runAll, hsame]

theorem reported_cons (step : Step) (steps : List Step) (b : Broadcast) :
    b.reported (step :: steps) = b.reported [step] ++ (b.run step).1.reported steps := by
  unfold reported
  rw [← List.singleton_append, List.filterMap_append, Observer.runAll_append, ← observer_run]

/-! ## §3. The delivery. -/

/-- What a step other than closing does to the delivery: what the observer reports is published,
and who subscribes comes last. -/
theorem delivery_run {step : Step} (h : step ≠ .close) (b : Broadcast) :
    let published := (b.delivery.publish (b.reported [step])).1
    (b.run step).1.delivery = ⟨published.status, published.subscribers ++ step.newcomers⟩ := by
  intro published
  have hidle : b.reported [step] = [] → published = b.delivery := by
    intro hnone
    show (b.delivery.publish (b.reported [step])).1 = b.delivery
    rw [hnone, Delivery.publish_nil]
  cases step with
  | notice n =>
    have hnews : b.reported [.notice n] = (b.observer.notice n).2 := List.append_nil _
    have hpublished : published = (b.run (.notice n)).1.delivery :=
      congrArg (fun news => (b.delivery.publish news).1) hnews
    rw [hpublished, Step.newcomers, List.append_nil]
  | watch p =>
    rw [hidle rfl, Step.newcomers, List.append_nil]
    rfl
  | unwatch p =>
    rw [hidle rfl, Step.newcomers, List.append_nil]
    rfl
  | subscribe breaksAt =>
    rw [hidle rfl]
    rfl
  | close => exact absurd rfl h

/-- The status of the delivery tells whether somebody has broken down. -/
theorem telling_run {b : Broadcast} (h : b.delivery.Telling) (step : Step) :
    (b.run step).1.delivery.Telling := by
  cases step with
  | notice n => exact h.publish _
  | watch p => exact h
  | unwatch p => exact h
  | subscribe breaksAt => exact h.subscribe breaksAt
  | close => exact .close b.delivery

theorem telling_runAll {b : Broadcast} (h : b.delivery.Telling) (steps : List Step) :
    (runAll steps b).delivery.Telling := by
  induction steps generalizing b with
  | nil => exact h
  | cons step steps ih => exact ih (telling_run h step)

/-! ## §4. The end of the delivery. -/

theorem closed_run {step : Step} {b : Broadcast} :
    (b.run step).1.delivery.status = .closed ↔ b.delivery.status = .closed ∨ step = .close := by
  cases step with
  | notice n => simpa [run, notice] using Delivery.publish_eq_closed
  | watch p => simp [run]
  | unwatch p => simp [run]
  | subscribe breaksAt => simp [run, subscribe, Delivery.subscribe]
  | close => simp [run, close, Delivery.close]

/-- A delivery is closed if it was closed at some time. -/
theorem closed_runAll {steps : List Step} {b : Broadcast} :
    (runAll steps b).delivery.status = .closed
      ↔ b.delivery.status = .closed ∨ Step.close ∈ steps := by
  induction steps generalizing b with
  | nil => simp [runAll]
  | cons step steps ih =>
    show (runAll steps (b.run step).1).delivery.status = .closed ↔ _
    rw [ih, closed_run, List.mem_cons, or_assoc, eq_comm (a := step)]

/-- Whether there is waiting for a delivery: nobody has closed it, and no subscriber has come to the
change on which it breaks down. -/
theorem flush_runAll (steps : List Step) (filters : List Filter) :
    let b := runAll steps (start filters)
    b.delivery.flush = .ok ()
      ↔ Step.close ∉ steps ∧ ∀ s ∈ b.delivery.subscribers, s.Intact := by
  intro b
  have htelling : b.delivery.Telling := telling_runAll Delivery.telling_start steps
  have hclosed : b.delivery.status = .closed ↔ Step.close ∈ steps := by
    simp [b, closed_runAll, start, Delivery.start]
  rw [Delivery.flush_eq_ok, ← hclosed]
  constructor
  · intro hrunning
    exact ⟨fun hclosed => (nomatch hrunning.symm.trans hclosed), htelling.running hrunning⟩
  · rintro ⟨hopen, hintact⟩
    cases hstatus : b.delivery.status with
    | running => rfl
    | broken =>
      obtain ⟨s, hs, hbroke⟩ := htelling.broken hstatus
      exact absurd (hintact s hs) hbroke
    | closed => exact absurd hstatus hopen

theorem run_of_stopped {b : Broadcast} (h : b.delivery.status ≠ .running) (step : Step) :
    (b.run step).1.delivery.status ≠ .running
      ∧ (b.run step).1.delivery.subscribers = b.delivery.subscribers ++ step.newcomers := by
  by_cases hclose : step = .close
  · subst hclose
    exact ⟨fun hrun => (nomatch hrun), (List.append_nil _).symm⟩
  · rw [delivery_run hclose, Delivery.publish_of_stopped h]
    exact ⟨h, rfl⟩

/-- Nothing arrives once the delivery has stopped, and it does not start again. -/
theorem runAll_of_stopped {b : Broadcast} (h : b.delivery.status ≠ .running) (steps : List Step) :
    (runAll steps b).delivery.status ≠ .running
      ∧ (runAll steps b).delivery.subscribers
        = b.delivery.subscribers ++ steps.flatMap Step.newcomers := by
  induction steps generalizing b with
  | nil => exact ⟨h, by rw [List.flatMap_nil, List.append_nil, runAll]⟩
  | cons step steps ih =>
    obtain ⟨hstopped, hfirst⟩ := run_of_stopped h step
    obtain ⟨hlast, hrest⟩ := ih hstopped
    exact ⟨hlast, by rw [List.flatMap_cons, ← List.append_assoc, ← hfirst]; exact hrest⟩

/-! ## §5. What a subscriber gets. -/

/-- Who subscribed keeps the place. -/
theorem getElem?_append_of_some {α : Type} {l m : List α} {i : Nat} {a : α} (h : l[i]? = some a) :
    (l ++ m)[i]? = some a :=
  (List.getElem?_append_left (List.getElem?_eq_some_iff.1 h).1).trans h

theorem getElem?_run {b : Broadcast} (h : b.delivery.Telling) (step : Step) {i : Nat}
    {s : Subscriber} (hs : b.delivery.subscribers[i]? = some s) :
    ∃ got, (b.run step).1.delivery.subscribers[i]? = some (s.receiveAll got)
      ∧ got <+: b.reported [step]
      ∧ ((b.run step).1.delivery.status = .running → got = b.reported [step]) := by
  by_cases hclose : step = .close
  · subst hclose
    refine ⟨[], ?_, List.nil_prefix, fun hrun => nomatch hrun⟩
    rw [receiveAll_nil]
    exact hs
  · rw [delivery_run hclose]
    obtain ⟨got, hgot, hprefix, hall⟩ := Delivery.publish_getElem? h (b.reported [step]) hs
    exact ⟨got, getElem?_append_of_some hgot, hprefix, hall⟩

/-- In a run a subscriber gets what the observer reports, from the first change on and without a
gap; and all of it if the delivery still runs at the end. -/
theorem getElem?_runAll {b : Broadcast} (h : b.delivery.Telling) (steps : List Step) {i : Nat}
    {s : Subscriber} (hs : b.delivery.subscribers[i]? = some s) :
    ∃ got, (runAll steps b).delivery.subscribers[i]? = some (s.receiveAll got)
      ∧ got <+: b.reported steps
      ∧ ((runAll steps b).delivery.status = .running → got = b.reported steps) := by
  induction steps generalizing b s with
  | nil => exact ⟨[], by rw [receiveAll_nil]; exact hs, List.nil_prefix, fun _ => rfl⟩
  | cons step steps ih =>
    obtain ⟨first, hfirst, hprefix, hall⟩ := getElem?_run h step hs
    rw [reported_cons]
    by_cases hrunning : (b.run step).1.delivery.status = .running
    · -- everything arrived in the first step, and the rest follows
      obtain ⟨rest, hrest, hsuffix, hend⟩ := ih (telling_run h step) hfirst
      rw [receiveAll_receiveAll, hall hrunning] at hrest
      exact ⟨_, hrest, List.prefix_append_right_inj _ |>.2 hsuffix, fun hrun => by rw [hend hrun]⟩
    · -- the delivery has stopped in the first step, and nothing arrives any more
      obtain ⟨hstopped, hsame⟩ := runAll_of_stopped hrunning steps
      refine ⟨first, ?_, hprefix.trans (List.prefix_append _ _), fun hrun => absurd hrun hstopped⟩
      show (runAll steps (b.run step).1).delivery.subscribers[i]? = _
      rw [hsame]
      exact getElem?_append_of_some hfirst

/-- Who subscribes in the course of a run gets what is reported from then on. -/
theorem getElem?_runAll_subscribe (filters : List Filter) (early late : List Step)
    (breaksAt : Option Nat) :
    let joined := runAll early (start filters)
    let last := runAll (early ++ .subscribe breaksAt :: late) (start filters)
    ∃ got, last.delivery.subscribers[joined.delivery.subscribers.length]?
        = some ⟨⟨got⟩, breaksAt⟩
      ∧ got <+: joined.reported late
      ∧ (last.delivery.status = .running → got = joined.reported late) := by
  intro joined last
  have hlast : last = runAll late (joined.subscribe breaksAt) := runAll_append _ _ _
  have hplace : (joined.subscribe breaksAt).delivery.subscribers[
      joined.delivery.subscribers.length]? = some ⟨.empty, breaksAt⟩ :=
    List.getElem?_concat_length
  have htelling : (joined.subscribe breaksAt).delivery.Telling :=
    (telling_runAll Delivery.telling_start early).subscribe breaksAt
  rw [hlast]
  exact getElem?_runAll htelling late hplace

/-! ## §6. The law. -/

/-- Nobody subscribes while something is reported. -/
theorem newcomers_of_reported {step : Step} {b : Broadcast} (h : b.reported [step] ≠ []) :
    step.newcomers = [] := by
  cases step with
  | subscribe breaksAt => exact absurd rfl h
  | notice n => rfl
  | watch p => rfl
  | unwatch p => rfl
  | close => rfl

/-- **What a step does to a running delivery**: it closes it, or everybody gets what is reported,
or there is a breakdown. -/
theorem run_cases {b : Broadcast} (h : b.delivery.Telling) (hrunning : b.delivery.status = .running)
    (step : Step) :
    (step = .close ∧ (b.run step).1.delivery = ⟨.closed, b.delivery.subscribers⟩)
      ∨ (step ≠ .close ∧ (b.run step).1.delivery
          = ⟨.running, b.delivery.subscribers.map (receiveAll (b.reported [step]))
              ++ step.newcomers⟩)
      ∨ ∃ d : Breakdown, d.changes = b.reported [step] ∧ d.subscribers = b.delivery.subscribers
          ∧ (b.run step).1.delivery = ⟨.broken, d.outcome⟩ := by
  by_cases hclose : step = .close
  · exact .inl ⟨hclose, by rw [hclose]; rfl⟩
  · rw [delivery_run hclose]
    rcases Delivery.publish_cases h hrunning (b.reported [step]) with ⟨-, hpub⟩ | ⟨d, hd, hss, hpub⟩
    · rw [hpub]
      exact .inr (.inl ⟨hclose, rfl⟩)
    · have hsome : b.reported [step] ≠ [] := by
        rw [← hd, Breakdown.changes]
        exact List.append_ne_nil_of_right_ne_nil _ (List.cons_ne_nil _ _)
      rw [hpub, newcomers_of_reported hsome, List.append_nil]
      exact .inr (.inr ⟨d, hd, hss, rfl⟩)

/-- **The law of delivery.**  After every run from the beginning:
the observer is the one of the run without subscriptions and closings;
there is waiting for the delivery as long as nobody has closed it and no subscriber has come to the
change on which it breaks down;
a subscriber has got what the observer reported since it subscribed, from the first change on and
without a gap, and all of it as long as there is waiting.
As to the next step, if there is waiting: closing delivers nothing; or everybody gets exactly what
is reported in the step; or there is a breakdown, and after it no waiting.  If there is none there
never will be again, and nobody gets anything any more. -/
theorem delivery_law (filters : List Filter) (steps : List Step) :
    let b := runAll steps (start filters)
    b.observer = (runAll (steps.filter Step.isObserved) (start filters)).observer
      ∧ (b.delivery.flush = .ok ()
          ↔ Step.close ∉ steps ∧ ∀ s ∈ b.delivery.subscribers, s.Intact)
      ∧ (∀ early breaksAt late, steps = early ++ .subscribe breaksAt :: late →
          let joined := runAll early (start filters)
          ∃ got, b.delivery.subscribers[joined.delivery.subscribers.length]?
              = some ⟨⟨got⟩, breaksAt⟩
            ∧ got <+: joined.reported late
            ∧ (b.delivery.flush = .ok () → got = joined.reported late))
      ∧ (b.delivery.flush = .ok () → ∀ step,
          let news := b.reported [step]
          let next := (b.run step).1.delivery
          (step = .close ∧ next.flush = .error .closed
              ∧ next.subscribers = b.delivery.subscribers)
            ∨ (step ≠ .close ∧ next.flush = .ok ()
              ∧ next.subscribers = b.delivery.subscribers.map (receiveAll news) ++ step.newcomers)
            ∨ (next.flush = .error .closed ∧ ∃ d : Breakdown, d.changes = news
              ∧ d.subscribers = b.delivery.subscribers ∧ next.subscribers = d.outcome))
      ∧ (b.delivery.flush = .error .closed → ∀ later,
          let last := (runAll later b).delivery
          last.flush = .error .closed
            ∧ last.subscribers = b.delivery.subscribers ++ later.flatMap Step.newcomers) := by
  intro b
  have htelling : b.delivery.Telling := telling_runAll Delivery.telling_start steps
  refine ⟨(observer_runAll_filter _ _).symm, flush_runAll steps filters, ?_, ?_, ?_⟩
  · intro early breaksAt late hsteps joined
    rw [Delivery.flush_eq_ok]
    subst hsteps
    exact getElem?_runAll_subscribe filters early late breaksAt
  · intro hok step news next
    rw [Delivery.flush_eq_error, Delivery.flush_eq_ok]
    rcases run_cases htelling (Delivery.flush_eq_ok.1 hok) step with
      ⟨hclose, hnext⟩ | ⟨hopen, hnext⟩ | ⟨d, hd, hss, hnext⟩
    · exact .inl ⟨hclose, by simp [next, hnext]⟩
    · exact .inr (.inl ⟨hopen, by simp [next, hnext, news]⟩)
    · exact .inr (.inr ⟨by simp [next, hnext], d, hd, hss, by simp [next, hnext]⟩)
  · intro hstopped later last
    rw [Delivery.flush_eq_error] at hstopped ⊢
    exact runAll_of_stopped hstopped later

/-- A recorder, a subscriber that breaks down on its third change, and a recorder that comes after
it. -/
def midstepRun : List Step := [.subscribe none, .subscribe (some 3), .subscribe none]

/-- A publisher with two partitions: four changes in one step. -/
def midstep : Step :=
  .notice ⟨.discovered, ⟨.replicate 16 1, .outgoing, "Square", "Shape", ["A", "B"]⟩⟩

theorem delivery_law_midstep :
    let b := runAll midstepRun (start [])
    let next := runAll (midstepRun ++ [midstep]) (start [])
    b.delivery.flush = .ok () ∧ next.delivery.flush = .error .closed
      ∧ (∃ d : Breakdown, d.changes = b.reported [midstep]
        ∧ d.subscribers = b.delivery.subscribers ∧ next.delivery.subscribers = d.outcome)
      ∧ (b.reported [midstep]).length = 4
      ∧ next.delivery.subscribers.map (fun s => s.recorder.count) = [3, 3, 2]
      ∧ (∃ got, next.delivery.subscribers[2]? = some ⟨⟨got⟩, none⟩ ∧ got <+: b.reported [midstep])
      ∧ next.observer = (runAll [midstep] (start [])).observer
      ∧ (runAll [.close, midstep] next).delivery.subscribers = next.delivery.subscribers := by
  intro b next
  have hok : b.delivery.flush = .ok () := Delivery.flush_eq_ok.2 (by decide +kernel)
  have hstopped : next.delivery.flush = .error .closed :=
    Delivery.flush_eq_error.2 (by decide +kernel)
  obtain ⟨-, -, -, hnext, -⟩ := delivery_law [] midstepRun
  obtain ⟨hobserver, -, hgot, -, hend⟩ := delivery_law [] (midstepRun ++ [midstep])
  have hbreakdown : ∃ d : Breakdown, d.changes = b.reported [midstep]
      ∧ d.subscribers = b.delivery.subscribers ∧ next.delivery.subscribers = d.outcome := by
    rcases hnext hok midstep with ⟨hclose, _⟩ | ⟨_, hflush, _⟩ | ⟨_, hbreakdown⟩
    · cases hclose
    · cases hstopped.symm.trans hflush
    · exact hbreakdown
  obtain ⟨got, hlast, hprefix, -⟩ :=
    hgot [.subscribe none, .subscribe (some 3)] none [midstep] rfl
  exact ⟨hok, hstopped, hbreakdown, by decide +kernel, by decide +kernel,
    ⟨got, hlast, hprefix⟩, hobserver, (hend hstopped [.close, midstep]).2.trans (List.append_nil _)⟩

end Broadcast

end RoutingSessions
