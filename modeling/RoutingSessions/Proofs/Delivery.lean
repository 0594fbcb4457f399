/-
  RoutingSessions.Proofs.Delivery — who gets what of the changes that are published.

  A subscriber is intact until the change comes on which it breaks down.  Publishing
  changes to intact subscribers has one of two outcomes.  If all of them can take
  everything, everybody gets everything.  Otherwise there is a first change that one
  of them does not survive, and a first subscriber that does not survive it: up to
  and including this subscriber everybody gets the changes up to and including this
  one, and those who subscribed later get only the changes before it.

  Main statements:
    * `Subscriber.handOutAll_of_intact`, `Subscriber.handOutAll_of_breakdown` — the
      two outcomes.
    * `Subscriber.intact_or_breakdown` — there is no third one.
    * `Delivery.publish_cases` — what publishing does to a running delivery.
-/
import Mathlib.Data.List.Induction
import RoutingSessions.Delivery

namespace RoutingSessions

namespace Subscriber

/-! ## §1. Receiving. -/

/-- Hands changes to the subscriber, one after the other. -/
def receiveAll (cs : List Change) (s : Subscriber) : Subscriber :=
  { s with recorder := ⟨s.recorder.changes ++ cs⟩ }

@[simp] theorem receiveAll_nil (s : Subscriber) : s.receiveAll [] = s := by
  simp [receiveAll]

@[simp] theorem receiveAll_receiveAll (cs ds : List Change) (s : Subscriber) :
    (s.receiveAll cs).receiveAll ds = s.receiveAll (cs ++ ds) := by
  simp [receiveAll, List.append_assoc]

theorem map_receiveAll_nil (ss : List Subscriber) : ss.map (receiveAll []) = ss :=
  (List.map_congr_left fun s _ => receiveAll_nil s).trans (List.map_id ss)

theorem map_receiveAll_map (cs ds : List Change) (ss : List Subscriber) :
    (ss.map (receiveAll cs)).map (receiveAll ds) = ss.map (receiveAll (cs ++ ds)) := by
  rw [List.map_map]
  exact List.map_congr_left fun s _ => receiveAll_receiveAll cs ds s

theorem receive_eq_receiveAll (c : Change) : receive c = receiveAll [c] := rfl

/-! ## §2. Breaking down. -/

/-- The change on which the subscriber breaks down has not come. -/
def Intact (s : Subscriber) : Prop :=
  ∀ n, 0 < n → s.breaksAt = some n → s.recorder.count < n

theorem intact_fresh (breaksAt : Option Nat) : Intact ⟨.empty, breaksAt⟩ :=
  fun _ hpos _ => hpos

/-- Who is intact after some changes was so before. -/
theorem Intact.of_receiveAll {cs : List Change} {s : Subscriber} (h : (s.receiveAll cs).Intact) :
    s.Intact := by
  intro n hpos hn
  have hcount : s.recorder.count + cs.length < n := by
    simpa [receiveAll, Recorder.count] using h n hpos hn
  exact Nat.lt_of_le_of_lt (Nat.le_add_right _ _) hcount

theorem Intact.mono {cs ds : List Change} {s : Subscriber} (hds : (s.receiveAll ds).Intact)
    (h : cs <+: ds) : (s.receiveAll cs).Intact := by
  obtain ⟨rest, rfl⟩ := h
  rw [← receiveAll_receiveAll] at hds
  exact hds.of_receiveAll

/-- Subscribers that have got some changes survive more of them if they survive all in one go. -/
theorem forall_intact_map {cs ds : List Change} {ss : List Subscriber} :
    (∀ s ∈ ss.map (receiveAll cs), (s.receiveAll ds).Intact)
      ↔ ∀ s ∈ ss, (s.receiveAll (cs ++ ds)).Intact := by
  rw [List.forall_mem_map]
  simp only [receiveAll_receiveAll]

/-- Of who was intact, the delivery finds out at once when it breaks down. -/
theorem hasBroken_receiveAll {c : Change} {s : Subscriber} (h : s.Intact) :
    (s.receiveAll [c]).hasBroken = false ↔ (s.receiveAll [c]).Intact := by
  have hcount : (s.receiveAll [c]).recorder.count = s.recorder.count + 1 := by
    simp [receiveAll, Recorder.count]
  unfold hasBroken Intact
  rw [decide_eq_false_iff_not, hcount]
  constructor
  · intro hne n hpos hn
    -- it was below `n`, and has not come to `n`
    have hlt : s.recorder.count < n := h n hpos hn
    have hne' : s.recorder.count + 1 ≠ n := fun heq => hne (heq ▸ hn)
    omega
  · intro hintact heq
    exact Nat.lt_irrefl _ (hintact _ (Nat.succ_pos _) heq)

/-! ## §3. One change. -/

/-- A change goes on to the others from a subscriber that survives it. -/
theorem handOut_cons {c : Change} {s : Subscriber} (ss : List Subscriber)
    (h : (s.receiveAll [c]).Intact) :
    handOut c (s :: ss) = (s.receiveAll [c] :: (handOut c ss).1, (handOut c ss).2) := by
  have hgoes : (s.receiveAll [c]).hasBroken = false := (hasBroken_receiveAll h.of_receiveAll).2 h
  rw [handOut, receive_eq_receiveAll, hgoes]
  rfl

/-- A change goes no further than to a subscriber that breaks down on it. -/
theorem handOut_cons_of_breaks {c : Change} {s : Subscriber} (ss : List Subscriber)
    (hintact : s.Intact) (hbreaks : ¬ (s.receiveAll [c]).Intact) :
    handOut c (s :: ss) = (s.receiveAll [c] :: ss, false) := by
  have hends : (s.receiveAll [c]).hasBroken = true := by
    rw [← Bool.not_eq_false, hasBroken_receiveAll hintact]
    exact hbreaks
  rw [handOut, receive_eq_receiveAll, hends]
  rfl

theorem handOut_of_intact {c : Change} {ss : List Subscriber}
    (h : ∀ s ∈ ss, (s.receiveAll [c]).Intact) :
    handOut c ss = (ss.map (receiveAll [c]), true) := by
  induction ss with
  | nil => rfl
  | cons s ss ih =>
    obtain ⟨hs, hss⟩ := List.forall_mem_cons.1 h
    rw [handOut_cons ss hs, ih hss, List.map_cons]

/-- The change goes round up to the first subscriber that breaks down on it. -/
theorem handOut_of_breaks {c : Change} {earlier later : List Subscriber} {culprit : Subscriber}
    (hearlier : ∀ s ∈ earlier, (s.receiveAll [c]).Intact) (hintact : culprit.Intact)
    (hbreaks : ¬ (culprit.receiveAll [c]).Intact) :
    handOut c (earlier ++ culprit :: later)
      = ((earlier ++ [culprit]).map (receiveAll [c]) ++ later, false) := by
  induction earlier with
  | nil => exact handOut_cons_of_breaks later hintact hbreaks
  | cons s ss ih =>
    obtain ⟨hs, hss⟩ := List.forall_mem_cons.1 hearlier
    rw [List.cons_append, handOut_cons _ hs, ih hss]
    rfl

/-! ## §4. Many changes. -/

/-- While everybody is intact, the changes may be handed out in two goes. -/
theorem handOutAll_append {cs ds : List Change} {ss : List Subscriber}
    (h : ∀ s ∈ ss, (s.receiveAll cs).Intact) :
    handOutAll (cs ++ ds) ss = handOutAll ds (ss.map (receiveAll cs)) := by
  induction cs generalizing ss with
  | nil => rw [List.nil_append, map_receiveAll_nil]
  | cons c cs ih =>
    have hfirst : ∀ s ∈ ss, (s.receiveAll [c]).Intact := fun s hs =>
      (h s hs).mono ⟨cs, rfl⟩
    have hrest : ∀ s ∈ ss.map (receiveAll [c]), (s.receiveAll cs).Intact :=
      forall_intact_map.2 h
    rw [List.cons_append, handOutAll, handOut_of_intact hfirst, if_pos rfl, ih hrest,
      map_receiveAll_map, List.singleton_append]

theorem handOutAll_of_intact {cs : List Change} {ss : List Subscriber}
    (h : ∀ s ∈ ss, (s.receiveAll cs).Intact) :
    handOutAll cs ss = (ss.map (receiveAll cs), true) := by
  have happend : handOutAll (cs ++ []) ss = handOutAll [] (ss.map (receiveAll cs)) :=
    handOutAll_append h
  rwa [List.append_nil] at happend

/-- Changes that not all of the subscribers survive: the first change that is fatal to one of them,
and the first subscriber to whom it is. -/
structure Breakdown where
  /-- The changes before the fatal one. -/
  before : List Change
  fatal : Change
  after : List Change
  /-- Those who subscribed before the one that breaks down. -/
  earlier : List Subscriber
  culprit : Subscriber
  later : List Subscriber
  intact_before : ∀ s ∈ earlier ++ culprit :: later, (s.receiveAll before).Intact
  intact_earlier : ∀ s ∈ earlier, (s.receiveAll (before ++ [fatal])).Intact
  breaks : ¬ (culprit.receiveAll (before ++ [fatal])).Intact

namespace Breakdown

/-- The changes that are handed out. -/
def changes (b : Breakdown) : List Change := b.before ++ b.fatal :: b.after

/-- The subscribers, in the order in which they subscribed. -/
def subscribers (b : Breakdown) : List Subscriber := b.earlier ++ b.culprit :: b.later

/-- The subscribers with what they have got. -/
def outcome (b : Breakdown) : List Subscriber :=
  (b.earlier ++ [b.culprit]).map (receiveAll (b.before ++ [b.fatal]))
    ++ b.later.map (receiveAll b.before)

/-- The culprit is one of those who got something, and shows it. -/
theorem exists_broken (b : Breakdown) : ∃ s ∈ b.outcome, ¬ s.Intact :=
  ⟨b.culprit.receiveAll (b.before ++ [b.fatal]), by simp [outcome], b.breaks⟩

/-- Everybody gets some of the changes, from the first one on and without a gap. -/
theorem outcome_getElem? (b : Breakdown) {i : Nat} {s : Subscriber}
    (h : b.subscribers[i]? = some s) :
    ∃ got, b.outcome[i]? = some (s.receiveAll got) ∧ got <+: b.changes := by
  have hsplit : b.subscribers = (b.earlier ++ [b.culprit]) ++ b.later := by simp [subscribers]
  rw [hsplit, List.getElem?_append] at h
  unfold outcome
  rw [List.getElem?_append, List.length_map]
  split at h
  next hi =>
    rw [if_pos hi, List.getElem?_map, h]
    exact ⟨_, rfl, b.after, by simp [changes]⟩
  next hi =>
    rw [if_neg hi, List.getElem?_map, h]
    exact ⟨_, rfl, b.fatal :: b.after, rfl⟩

end Breakdown

theorem handOutAll_of_breakdown (b : Breakdown) :
    handOutAll b.changes b.subscribers = (b.outcome, false) := by
  have hearlier : ∀ s ∈ b.earlier.map (receiveAll b.before), (s.receiveAll [b.fatal]).Intact :=
    forall_intact_map.2 b.intact_earlier
  have hculprit : (b.culprit.receiveAll b.before).Intact := b.intact_before _ (by simp)
  have hbreaks : ¬ ((b.culprit.receiveAll b.before).receiveAll [b.fatal]).Intact := by
    rw [receiveAll_receiveAll]
    exact b.breaks
  calc handOutAll b.changes b.subscribers
      = handOutAll (b.fatal :: b.after) (b.subscribers.map (receiveAll b.before)) :=
        handOutAll_append b.intact_before
    _ = (b.outcome, false) := by
        rw [Breakdown.subscribers, List.map_append, List.map_cons, handOutAll,
          handOut_of_breaks hearlier hculprit hbreaks]
        simp [Breakdown.outcome]

/-- Either everybody survives the changes or there is a breakdown. -/
theorem intact_or_breakdown (cs : List Change) {ss : List Subscriber} (h : ∀ s ∈ ss, s.Intact) :
    (∀ s ∈ ss, (s.receiveAll cs).Intact)
      ∨ ∃ b : Breakdown, b.changes = cs ∧ b.subscribers = ss := by
  induction cs using List.reverseRecOn with
  | nil => exact .inl fun s hs => by rw [receiveAll_nil]; exact h s hs
  | append_singleton cs c ih =>
    rcases ih with hbefore | ⟨b, hcs, hss⟩
    · classical
      -- nothing was fatal so far, so `c` is the first change that can be
      cases hfind : ss.find? fun s => ¬ (s.receiveAll (cs ++ [c])).Intact with
      | none => exact .inl fun s hs => by simpa using List.find?_eq_none.1 hfind s hs
      | some culprit =>
        obtain ⟨hbreaks, earlier, later, rfl, hearlier⟩ := List.find?_eq_some_iff_append.1 hfind
        exact .inr ⟨{
          before := cs
          fatal := c
          after := []
          earlier := earlier
          culprit := culprit
          later := later
          intact_before := hbefore
          intact_earlier := fun s hs => by simpa using hearlier s hs
          breaks := by simpa using hbreaks }, rfl, rfl⟩
    · refine .inr ⟨{ b with after := b.after ++ [c] }, ?_, hss⟩
      rw [← hcs, Breakdown.changes, Breakdown.changes, List.append_assoc, List.cons_append]

end Subscriber

/-! ## §5. Publishing. -/

namespace Delivery

open Subscriber

theorem flush_eq_ok {d : Delivery} : d.flush = .ok () ↔ d.status = .running := by
  obtain ⟨status, ss⟩ := d
  cases status <;> simp [flush, isRunning]

theorem flush_eq_error {d : Delivery} : d.flush = .error .closed ↔ d.status ≠ .running := by
  obtain ⟨status, ss⟩ := d
  cases status <;> simp [flush, isRunning]

/-- A delivery that does not run hands out nothing. -/
theorem publish_of_stopped {d : Delivery} (h : d.status ≠ .running) (cs : List Change) :
    (d.publish cs).1 = d := by
  obtain ⟨status, ss⟩ := d
  cases status with
  | running => exact absurd rfl h
  | broken => rfl
  | closed => rfl

theorem publish_eq_closed {d : Delivery} {cs : List Change} :
    (d.publish cs).1.status = .closed ↔ d.status = .closed := by
  obtain ⟨status, ss⟩ := d
  cases status with
  | running => simp only [publish]; split <;> simp
  | broken => rfl
  | closed => rfl

theorem publish_nil (d : Delivery) : (d.publish []).1 = d := by
  obtain ⟨status, ss⟩ := d
  cases status <;> rfl

/-- The status tells whether somebody has broken down, as long as the delivery is not closed. -/
structure Telling (d : Delivery) : Prop where
  running : d.status = .running → ∀ s ∈ d.subscribers, s.Intact
  broken : d.status = .broken → ∃ s ∈ d.subscribers, ¬ s.Intact

variable {d : Delivery}

theorem telling_start : Telling (start []) := ⟨fun _ _ hs => (nomatch hs), fun h => nomatch h⟩

/-- What publishing does to a running delivery. -/
theorem publish_cases (h : d.Telling) (hrunning : d.status = .running) (cs : List Change) :
    ((∀ s ∈ d.subscribers, (s.receiveAll cs).Intact)
        ∧ (d.publish cs).1 = ⟨.running, d.subscribers.map (receiveAll cs)⟩)
      ∨ ∃ b : Breakdown, b.changes = cs ∧ b.subscribers = d.subscribers
        ∧ (d.publish cs).1 = ⟨.broken, b.outcome⟩ := by
  have hall := h.running hrunning
  obtain ⟨status, ss⟩ := d
  obtain rfl : status = .running := hrunning
  rcases intact_or_breakdown cs hall with hintact | ⟨b, rfl, rfl⟩
  · exact .inl ⟨hintact, by simp [publish, handOutAll_of_intact hintact]⟩
  · exact .inr ⟨b, rfl, rfl, by simp [publish, handOutAll_of_breakdown b]⟩

theorem Telling.publish (h : d.Telling) (cs : List Change) : (d.publish cs).1.Telling := by
  by_cases hrunning : d.status = .running
  · rcases publish_cases h hrunning cs with ⟨hall, hpub⟩ | ⟨b, -, -, hpub⟩
    · rw [hpub]
      exact ⟨fun _ => List.forall_mem_map.2 hall, fun hbroken => nomatch hbroken⟩
    · rw [hpub]
      exact ⟨fun hrun => (nomatch hrun), fun _ => b.exists_broken⟩
  · rwa [publish_of_stopped hrunning]

theorem Telling.subscribe (h : d.Telling) (breaksAt : Option Nat) :
    (d.subscribe ⟨.empty, breaksAt⟩).Telling := by
  refine ⟨fun hrunning s hs => ?_, fun hbroken => ?_⟩
  · rcases List.mem_append.1 hs with hs | hs
    · exact h.running hrunning s hs
    · rw [List.mem_singleton.1 hs]
      exact intact_fresh breaksAt
  · obtain ⟨s, hs, hbroke⟩ := h.broken hbroken
    exact ⟨s, List.mem_append_left _ hs, hbroke⟩

theorem Telling.close (d : Delivery) : d.close.1.Telling :=
  ⟨fun h => (nomatch h), fun h => nomatch h⟩

/-- What a subscriber gets of what is published: the changes from the first one on, and all of
them if the delivery still runs afterwards. -/
theorem publish_getElem? (h : d.Telling) (cs : List Change) {i : Nat} {s : Subscriber}
    (hs : d.subscribers[i]? = some s) :
    ∃ got, (d.publish cs).1.subscribers[i]? = some (s.receiveAll got) ∧ got <+: cs
      ∧ ((d.publish cs).1.status = .running → got = cs) := by
  by_cases hrunning : d.status = .running
  · rcases publish_cases h hrunning cs with ⟨-, hpub⟩ | ⟨b, rfl, hss, hpub⟩
    · rw [hpub]
      exact ⟨cs, by rw [List.getElem?_map, hs, Option.map_some], List.prefix_refl cs, fun _ => rfl⟩
    · rw [hpub]
      obtain ⟨got, hgot, hprefix⟩ := b.outcome_getElem? (hss ▸ hs)
      exact ⟨got, hgot, hprefix, fun hrun => nomatch hrun⟩
  · rw [publish_of_stopped hrunning]
    exact ⟨[], by rw [receiveAll_nil, hs], List.nil_prefix, fun hrun => absurd hrun hrunning⟩

end Delivery

end RoutingSessions
