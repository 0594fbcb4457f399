/-
  RoutingSessions.Proofs.Traffic.Cadence — when an order is tried, whatever overlaps.

  Two attempts for an order start one delay apart at least, however long attempts take and
  whatever happens meanwhile.

  If time passes only when nothing is left to do, the attempts for an order start on its
  beats, from the first one on, none left out and none taken twice, until the order is
  acknowledged or overruled.  Attempts for different orders may be under way at once, and
  end in any order: what matters to an order is that its own attempt ends before time
  passes.  A pending order is armed for the beat whose number is that of the attempts for
  it that have ended, so an attempt that starts falls on this beat; and one that is under
  way has started now, so at its end the order is armed for the next beat.

  Main statements:
    * `spaced_of_path` — attempts for an order are one delay apart, along every path.
    * `Paced.move` — when time is patient, every attempt falls on the next beat.
    * `exists_overruling` — what is overruled was so at one event.
    * `cadence_of_path` — when an order is tried.
-/
import RoutingSessions.Proofs.Outbox.Beats
import RoutingSessions.Proofs.Traffic.Sound

namespace RoutingSessions

namespace Traffic

open Outbox (Armed)

variable {settings : CommandSettings} {builder : CommandBuilder} {delay : Nat} {e : Event}
  {es : List Event} {t u v : Traffic} {order : Order} {ok : Event → Traffic → Prop}

/-! ## §1. At most one attempt in a delay. -/

/-- Attempts for one order start one delay apart, and so does the next one. -/
structure Spaced (delay : Nat) (t : Traffic) : Prop where
  delay_eq : t.outbox.settings.retryDelay = delay
  past : ∀ a ∈ t.attempts, a.time ≤ t.outbox.clock
  next : ∀ i ∈ t.outbox.intents, ∀ a ∈ t.attempts, a.order = i.order → a.reply ≠ none →
    a.time + delay ≤ i.due
  apart : t.attempts.Pairwise fun a b => a.order = b.order → a.time + delay ≤ b.time

theorem spaced_new (settings : CommandSettings) (builder : CommandBuilder) :
    Spaced settings.retryDelay (new settings builder) where
  delay_eq := rfl
  past _ ha := nomatch ha
  next _ hi := nomatch hi
  apart := .nil

namespace Spaced

/-- A new order was not tried yet, and a command puts nothing off. -/
theorem ask (h : Spaced delay t) (ht : Sound t) (c : Outbox.Command) : Spaced delay (t.ask c) := by
  refine ⟨?delay_eq, ?past, ?next, h.apart⟩
  case delay_eq => exact (congrArg _ (Outbox.settings_run c t.outbox)).trans h.delay_eq
  case past =>
    intro a ha
    show a.time ≤ (t.outbox.run c).1.clock
    rw [Outbox.clock_run]
    exact h.past a ha
  case next =>
    intro i hi a ha hai hended
    have hi : i ∈ (t.outbox.run c).1.intents := hi
    rcases Outbox.run_cases c t.outbox with
      ⟨tally, notes, heq⟩ | ⟨change, request, _, _, _, heq⟩ | ⟨_, heq⟩
    · rw [heq] at hi
      exact h.next i hi a ha hai hended
    · rw [heq] at hi
      rcases Outbox.mem_intents_accept.1 hi with ⟨j, hj, rfl⟩ | rfl
      · rw [(Outbox.due_cancelFor _ j).1]
        rw [Outbox.order_cancelFor] at hai
        exact h.next j hj a ha hai hended
      · have hmem := ht.known a ha
        rw [hai] at hmem
        exact absurd hmem (ht.accounts.newOrder_not_mem change.resource request)
    · rw [heq] at hi
      obtain ⟨j, hj, rfl⟩ := List.mem_map.1 hi
      exact h.next j hj a ha hai hended

/-- An attempt starts when it is due. -/
theorem start (h : Spaced delay t) {i : Intent} (hi : t.MayStart i) : Spaced delay (t.start i) where
  delay_eq := h.delay_eq
  past a ha := by
    rcases List.mem_append.1 ha with ha | ha
    · exact h.past a ha
    · rw [List.mem_singleton.1 ha]
      exact Nat.le_refl _
  next j hj a ha haj hended := by
    rcases List.mem_append.1 ha with ha | ha
    · exact h.next j hj a ha haj hended
    · rw [List.mem_singleton.1 ha] at hended
      exact absurd rfl hended
  apart := by
    refine List.pairwise_append.2 ⟨h.apart, List.pairwise_singleton _ _, fun a ha b hb hab => ?_⟩
    rw [List.mem_singleton.1 hb] at hab ⊢
    exact Nat.le_trans (h.next i hi.mem_intents a ha hab (hi.idle a ha hab)) hi.due

/-- An attempt that ends puts its order off from now on, and it has not started later than now. -/
theorem finish (h : Spaced delay t) (i : Intent) (reply : Reply) :
    Spaced delay (t.finish i reply) := by
  have hclock : (t.finish i reply).outbox.clock = t.outbox.clock :=
    Outbox.clock_conclude i reply t.outbox
  refine ⟨?delay_eq, ?past, ?next, ?apart⟩
  case delay_eq =>
    have hsettings := (Outbox.sameBooks_conclude i reply t.outbox).settings
    exact (congrArg CommandSettings.retryDelay hsettings).trans h.delay_eq
  case past =>
    intro b hb
    obtain ⟨a, ha, rfl⟩ := List.mem_map.1 hb
    rw [time_answer, hclock]
    exact h.past a ha
  case next =>
    intro j hj b hb hbj hended
    obtain ⟨a, ha, rfl⟩ := List.mem_map.1 hb
    rw [order_answer] at hbj
    rw [time_answer]
    rcases Outbox.mem_intents_conclude hj with ⟨hj, hticket⟩ | hdue
    · -- the answer is for another order
      have hother : answer i.order reply a = a :=
        if_neg fun hmatch => hticket (congrArg Order.ticket (hbj.symm.trans hmatch.1))
      rw [hother] at hended
      exact h.next j hj a ha hbj hended
    · rw [hdue, h.delay_eq]
      exact Nat.add_le_add_right (h.past a ha) delay
  case apart =>
    refine List.pairwise_map.2 (h.apart.imp fun {a b} hab => ?_)
    rw [order_answer, order_answer, time_answer, time_answer]
    exact hab

/-- Every event keeps attempts apart. -/
theorem move (h : Spaced delay t) (ht : Sound t) (hmove : Move e t u) : Spaced delay u := by
  cases hmove with
  | ask c => exact h.ask ht c
  | tick => exact ⟨h.delay_eq, fun a ha => Nat.le_succ_of_le (h.past a ha), h.next, h.apart⟩
  | forget _ _ _ =>
    exact ⟨h.delay_eq, h.past, fun j hj => h.next j (List.mem_filter.1 hj).1, h.apart⟩
  | start hi => exact h.start hi
  | finish reply _ => exact h.finish _ reply

end Spaced

/-- **At most one attempt in a delay**, along every path. -/
theorem spaced_of_path (hpath : Path ok es (new settings builder) t) :
    t.attempts.Pairwise fun a b => a.order = b.order → a.time + settings.retryDelay ≤ b.time := by
  have hboth := hpath.preserves (P := fun u => Sound u ∧ Spaced settings.retryDelay u)
    (fun _ _ _ hu _ hmove => ⟨hu.1.move hmove, hu.2.move hu.1 hmove⟩)
    ⟨sound_new settings builder, spaced_new settings builder⟩
  exact hboth.2.apart

/-! ## §2. On the beat. -/

/-- The attempts for an order, oldest first. -/
def attemptsOn (t : Traffic) (order : Order) : List Attempt := t.attempts.filter (·.order = order)

/-- How often an order was tried. -/
def tried (t : Traffic) (order : Order) : Nat := (t.attemptsOn order).length

/-- How many attempts for an order have ended. -/
def ended (t : Traffic) (order : Order) : Nat :=
  (t.attemptsOn order).countP (·.reply.isSome)

theorem mem_attemptsOn {a : Attempt} :
    a ∈ t.attemptsOn order ↔ a ∈ t.attempts ∧ a.order = order := by
  unfold attemptsOn
  rw [List.mem_filter, decide_eq_true_iff]

/-- Where no attempt for an order is under way, all of them have ended. -/
theorem ended_eq_tried (hidle : ∀ a ∈ t.attempts, a.order = order → a.reply ≠ none) :
    t.ended order = t.tried order := by
  refine List.countP_eq_length.2 fun a ha => ?_
  obtain ⟨hmem, ho⟩ := mem_attemptsOn.1 ha
  exact Option.isSome_iff_ne_none.2 (hidle a hmem ho)

theorem attemptsOn_start (i : Intent) (t : Traffic) (order : Order) :
    (t.start i).attemptsOn order
      = t.attemptsOn order
        ++ if i.order = order then [⟨t.outbox.clock, i.order, none⟩] else [] := by
  unfold attemptsOn
  show (t.attempts ++ [_]).filter _ = _
  rw [List.filter_append, List.filter_singleton]
  by_cases ho : i.order = order
  · rw [if_pos ho, decide_eq_true ho]
    rfl
  · rw [if_neg ho, decide_eq_false ho]
    rfl

theorem attemptsOn_finish (i : Intent) (reply : Reply) (t : Traffic) (order : Order) :
    (t.finish i reply).attemptsOn order = (t.attemptsOn order).map (answer i.order reply) := by
  unfold attemptsOn
  show (t.attempts.map _).filter _ = _
  rw [List.filter_map]
  congr 1
  exact List.filter_congr fun a _ => by rw [Function.comp_apply, order_answer]

/-- What starts has not ended. -/
theorem ended_start (i : Intent) (t : Traffic) : (t.start i).ended = t.ended := by
  funext order
  unfold ended
  rw [attemptsOn_start, List.countP_append]
  split <;> rfl

/-- The end of an attempt is one more for its order. -/
theorem Sound.ended_finish (ht : Sound t) {i : Intent} (hi : t.UnderWay i.order) (reply : Reply) :
    (t.finish i reply).ended = Armed.again i.order t.ended := by
  funext order
  unfold Armed.again
  by_cases ho : order = i.order
  · -- it is the one attempt that is under way for the order
    rw [if_pos ho, ho]
    obtain ⟨before, a, after, hsplit, hai, hnone, hanswer⟩ := ht.exists_underWay hi
    unfold ended attemptsOn
    show ((t.attempts.map (answer i.order reply)).filter _).countP _ = _
    rw [hanswer reply, hsplit]
    simp only [List.filter_append, List.filter_cons, hai, decide_true, if_true,
      List.countP_append, List.countP_cons, hnone, Option.isSome_some, Option.isSome_none,
      Bool.false_eq_true, if_false]
    omega
  · rw [if_neg ho]
    have hsame : (t.finish i reply).attemptsOn order = t.attemptsOn order := by
      rw [attemptsOn_finish]
      refine (List.map_congr_left fun a ha => ?_).trans (List.map_id _)
      exact if_neg fun hmatch => ho ((mem_attemptsOn.1 ha).2.symm.trans hmatch.1)
    unfold ended
    rw [hsame]

/-- Every order was tried on its first beats, and every pending one is armed for the next. -/
structure Paced (delay : Nat) (t : Traffic) : Prop where
  sound : Sound t
  armed : t.outbox.Armed delay t.ended
  times : ∀ order, (t.attemptsOn order).map (·.time)
    = (List.range (t.tried order)).map (order.beat delay)
  past : ∀ a ∈ t.attempts, a.time ≤ t.outbox.clock
  /-- What is under way is so on its beat, and that is now. -/
  now : ∀ a ∈ t.attempts, a.reply = none → a.order.beat delay (t.ended a.order) = t.outbox.clock

theorem paced_new (settings : CommandSettings) (builder : CommandBuilder) :
    Paced settings.retryDelay (new settings builder) where
  sound := sound_new settings builder
  armed := Outbox.armed_new settings builder
  times _ := rfl
  past _ ha := nomatch ha
  now _ ha := nomatch ha

namespace Paced

theorem ask (h : Paced delay t) (c : Outbox.Command) : Paced delay (t.ask c) where
  sound := h.sound.ask c
  armed := h.armed.run h.sound.accounts.toOrderly c
  times := h.times
  past a ha := by
    show a.time ≤ (t.outbox.run c).1.clock
    rw [Outbox.clock_run]
    exact h.past a ha
  now a ha hnone := by
    show _ = (t.outbox.run c).1.clock
    rw [Outbox.clock_run]
    exact h.now a ha hnone

/-- Time passes when nothing is due and nothing is under way. -/
theorem tick (h : Paced delay t) (hrest : t.AtRest) : Paced delay t.tick where
  sound := h.sound.move .tick
  armed := h.armed.tick fun _ hi _ => (h.sound.later_of_atRest hrest hi).2
  times := h.times
  past a ha := Nat.le_succ_of_le (h.past a ha)
  now a ha hnone := absurd hnone (hrest.idle a ha)

/-- **An attempt that starts falls on the next beat of its order.** -/
theorem start (h : Paced delay t) {i : Intent} (hi : t.MayStart i) : Paced delay (t.start i) := by
  -- what is due is due now, and that is the beat whose number is that of the attempts so far
  have hbeat : i.order.beat delay (t.ended i.order) = t.outbox.clock := by
    rw [← h.armed.due_eq i hi.mem_intents hi.live]
    exact Nat.le_antisymm hi.due (h.armed.ahead i hi.mem_intents hi.live)
  have htried : t.ended i.order = t.tried i.order := ended_eq_tried hi.idle
  refine ⟨h.sound.start hi, ?armed, fun order => ?times, fun a ha => ?past, fun a ha hnone => ?now⟩
  case armed =>
    rw [ended_start]
    exact h.armed
  case times =>
    unfold tried
    rw [attemptsOn_start]
    by_cases ho : i.order = order
    · rw [if_pos ho, List.map_append, List.length_append, List.length_singleton,
        List.range_succ, List.map_append, h.times order, ← ho]
      exact congrArg (_ ++ [·]) (hbeat.symm.trans (congrArg _ htried))
    · rw [if_neg ho, List.append_nil]
      exact h.times order
  case past =>
    rcases List.mem_append.1 ha with ha | ha
    · exact h.past a ha
    · rw [List.mem_singleton.1 ha]
      exact Nat.le_refl _
  case now =>
    rw [ended_start]
    rcases List.mem_append.1 ha with ha | ha
    · exact h.now a ha hnone
    · rw [List.mem_singleton.1 ha]
      exact hbeat

/-- **An attempt that ends arms its order for the next beat.** -/
theorem finish (h : Paced delay t) {i : Intent} (hi : t.UnderWay i.order) (reply : Reply) :
    Paced delay (t.finish i reply) := by
  have hended := h.sound.ended_finish hi reply
  have hclock : (t.finish i reply).outbox.clock = t.outbox.clock :=
    Outbox.clock_conclude i reply t.outbox
  refine ⟨h.sound.finish hi reply, ?armed, fun order => ?times, fun b hb => ?past,
    fun b hb hnone => ?now⟩
  case armed =>
    obtain ⟨a, ha, hai, hnone⟩ := hi
    have hmem : i.order ∈ t.outbox.ledger := hai ▸ h.sound.known a ha
    rw [hended]
    exact h.armed.conclude h.sound.accounts.toOrderly hmem (hai ▸ h.now a ha hnone) reply
  case times =>
    unfold tried
    rw [attemptsOn_finish, List.length_map, List.map_map]
    exact (List.map_congr_left fun a _ => time_answer a).trans (h.times order)
  case past =>
    obtain ⟨a, ha, rfl⟩ := List.mem_map.1 hb
    rw [time_answer, hclock]
    exact h.past a ha
  case now =>
    -- what is under way still is for another order
    obtain ⟨a, ha, rfl⟩ := List.mem_map.1 hb
    obtain ⟨hanone, hne⟩ := reply_answer_eq_none.1 hnone
    rw [order_answer, hended, hclock, Armed.again, if_neg hne]
    exact h.now a ha hanone

/-- **When time is patient, every event keeps the pace.** -/
theorem move (h : Paced delay t) (hpatient : e.Patient t) (hmove : Move e t u) :
    Paced delay u := by
  cases hmove with
  | ask c => exact h.ask c
  | tick => exact h.tick (hpatient rfl)
  | forget hi hc hidle =>
    exact ⟨h.sound.forget hi hc hidle, h.armed.forget _, h.times, h.past, h.now⟩
  | start hi => exact h.start hi
  | finish reply hi => exact h.finish hi reply

theorem path (h : Paced delay t) (hpath : Path Event.Patient es t u) : Paced delay u :=
  hpath.preserves (fun _ _ _ hv hpatient hmove => hv.move hpatient hmove) h

end Paced

/-! ## §3. What ends it. -/

/-- The attempts for an acknowledged order are some that failed and one that succeeded. -/
theorem Sound.exists_success (h : Sound t) (hack : t.Acknowledged order) :
    ∃ failed a, t.attemptsOn order = failed ++ [a]
      ∧ (∀ b ∈ failed, b.succeeded = false) ∧ a.succeeded = true := by
  obtain ⟨a, ha, rfl, hsucc⟩ := hack
  obtain ⟨before, after, hsplit⟩ := List.append_of_mem ha
  have hapart := h.apart
  rw [hsplit] at hapart
  obtain ⟨_, hbehind, hfront⟩ := List.pairwise_append.1 hapart
  -- an attempt that is followed by one for the same order has failed
  have hfailed : ∀ b c : Attempt, Follows b c → b.order = c.order → b.succeeded = false := by
    intro b c hbc hsame
    rcases (hbc (by rw [hsame])).2 with hlt | ⟨_, hfail⟩
    · rw [hsame] at hlt
      exact absurd hlt (Nat.lt_irrefl _)
    · exact hfail
  have hafter : after.filter (fun b => b.order = a.order) = [] := by
    refine List.filter_eq_nil_iff.2 fun b hb hba => ?_
    have hba : b.order = a.order := of_decide_eq_true hba
    have hfail := hfailed a b ((List.pairwise_cons.1 hbehind).1 b hb) hba.symm
    rw [hsucc] at hfail
    cases hfail
  refine ⟨before.filter (fun b => b.order = a.order), a, ?_, fun b hb => ?_, hsucc⟩
  · unfold attemptsOn
    rw [hsplit, List.filter_append, List.filter_cons, if_pos (decide_eq_true rfl), hafter]
  · obtain ⟨hb, hba⟩ := List.mem_filter.1 hb
    exact hfailed b a (hfront b hb a List.mem_cons_self) (of_decide_eq_true hba)

/-- Where no more attempts are for the order, it was tried as often as before. -/
theorem tried_eq_of_orders {more : List Order}
    (hmore : u.attempts.map (·.order) = t.attempts.map (·.order) ++ more) (hout : order ∉ more) :
    u.tried order = t.tried order := by
  have hcount : ∀ v : Traffic, v.tried order = (v.attempts.map (·.order)).count order := by
    intro v
    unfold tried attemptsOn
    rw [List.count, List.countP_map, List.countP_eq_length_filter]
    rfl
  rw [hcount, hcount, hmore, List.count_append, List.count_eq_zero_of_not_mem hout, Nat.add_zero]

/-- At this event a newer command or a shutdown overruled the order. -/
structure Overrules (e : Event) (order : Order) (t u : Traffic) : Prop where
  move : Move e t u
  before : ¬t.outbox.Overruled order
  after : u.outbox.Overruled order

/-- Only a command overrules an order. -/
theorem Overrules.exists_command (h : Overrules e order t u) : ∃ c, u = t.ask c := by
  obtain ⟨hmove, hbefore, hafter⟩ := h
  have hsame : ¬Outbox.SameBooks u.outbox t.outbox :=
    fun hback => hbefore (hafter.of_sameBooks hback)
  cases hmove with
  | ask c => exact ⟨c, rfl⟩
  | tick => exact absurd ⟨rfl, rfl, rfl, rfl⟩ hsame
  | forget _ _ _ => exact absurd ⟨rfl, rfl, rfl, rfl⟩ hsame
  | start _ => exact absurd (.refl _) hsame
  | @finish i reply _ _ =>
    obtain ⟨hsettings, hbuilder, hledger, hshut⟩ := Outbox.sameBooks_conclude i reply t.outbox
    exact absurd ⟨hsettings.symm, hbuilder.symm, hledger.symm, hshut.symm⟩ hsame

/-- **What is overruled was so at one event.** -/
theorem exists_overruling (hpath : Path ok es t u) (ht : ¬t.outbox.Overruled order)
    (hu : u.outbox.Overruled order) :
    ∃ first e second y z, es = first ++ e :: second ∧ Path ok first t y ∧ Overrules e order y z
      ∧ Path ok second z u := by
  induction hpath with
  | nil => exact absurd hu ht
  | @cons e es t v u hok hmove hrest ih =>
    by_cases hv : v.outbox.Overruled order
    · exact ⟨[], e, es, t, v, rfl, .nil, ⟨hmove, ht, hv⟩, hrest⟩
    · obtain ⟨first, e', second, y, z, rfl, hfirst, hoverrules, hsecond⟩ := ih hv hu
      exact ⟨e :: first, e', second, y, z, rfl, .cons hok hmove hfirst, hoverrules, hsecond⟩

/-! ## §4. The cadence. -/

namespace Paced

variable (h : Paced delay t)
include h

/-- At one instant an order is tried once at most. -/
theorem pairwise_time (hdelay : 0 < delay) (order : Order) :
    (t.attemptsOn order).Pairwise fun (a b : Attempt) => a.time < b.time := by
  have htimes : ((t.attemptsOn order).map (·.time)).Pairwise (· < ·) := by
    rw [h.times, List.pairwise_map]
    exact List.pairwise_lt_range.imp fun hlt => (Order.beat_lt hdelay order).2 hlt
  exact List.pairwise_map.1 htimes

/-- No attempt lies in the future. -/
theorem beat_le_clock {m : Nat} (hm : m < t.tried order) : order.beat delay m ≤ t.outbox.clock := by
  have hbeat : order.beat delay m ∈ (t.attemptsOn order).map (·.time) := by
    rw [h.times order]
    exact List.mem_map_of_mem (List.mem_range.2 hm)
  obtain ⟨a, ha, htime⟩ := List.mem_map.1 hbeat
  rw [← htime]
  exact h.past a (mem_attemptsOn.1 ha).1

/-- **No beat is left out**: of a pending order at rest, every beat up to now was taken. -/
theorem lt_tried_iff (hdelay : 0 < delay) (hrest : t.AtRest) (hmem : order ∈ t.outbox.ledger)
    (hnot : ¬t.outbox.Overruled order) (hack : ¬t.Acknowledged order) (m : Nat) :
    m < t.tried order ↔ order.beat delay m ≤ t.outbox.clock := by
  refine ⟨h.beat_le_clock, fun hbeat => ?_⟩
  obtain ⟨i, hi, rfl, hc⟩ := h.sound.accounts.exists_pending hmem hnot hack
  -- it is armed for a beat that comes later
  have hlater := (h.sound.later_of_atRest hrest hi).2
  rw [h.armed.due_eq i hi hc, ended_eq_tried fun a ha _ => hrest.idle a ha] at hlater
  exact (Order.beat_lt hdelay i.order).1 (Nat.lt_of_le_of_lt hbeat hlater)

/-- **An order that is overruled was tried on every beat before**, if it was not done with. -/
theorem lt_tried_of_overrules (hdelay : 0 < delay) (hover : Overrules e order t u)
    (hack : ¬t.Acknowledged order) {m : Nat} (hm : order.beat delay m < u.outbox.clock) :
    m < t.tried order := by
  obtain ⟨c, rfl⟩ := hover.exists_command
  have hclock : (t.ask c).outbox.clock = t.outbox.clock := Outbox.clock_run c t.outbox
  rw [hclock] at hm
  by_cases hmem : order ∈ t.outbox.ledger
  · obtain ⟨i, hi, rfl, hlive⟩ := h.sound.accounts.exists_pending hmem hover.before hack
    have hahead := h.armed.ahead i hi hlive
    rw [h.armed.due_eq i hi hlive] at hahead
    have hlt : m < t.ended i.order :=
      (Order.beat_lt hdelay i.order).1 (Nat.lt_of_lt_of_le hm hahead)
    exact Nat.lt_of_lt_of_le hlt List.countP_le_length
  · -- it was placed at this very time, so no beat was before
    have hlater := (Outbox.placed_run c hover.after.mem_ledger).resolve_left hmem
    have hfirst : order.placed ≤ order.beat delay m := Nat.le_add_right _ _
    omega

end Paced

/-- **The cadence of attempts, whatever overlaps.**  Take any path on which time passes only when
nothing is left to do, and an order that was accepted on it.  Its attempts started on its first
beats, each time one, and never two at one instant.  If it is acknowledged, then some attempts
failed and the last one succeeded, and it is never tried again.  If it is not, and was not overruled
either, then at rest it was tried on every beat up to now.  If it was overruled, it was so at one
event: it was tried on no beat after that time, and is never tried again; and unless it had been
acknowledged, it was tried on every beat before. -/
theorem cadence_of_path (hdelay : 0 < settings.retryDelay)
    (hpath : Path Event.Patient es (new settings builder) t) (hmem : order ∈ t.outbox.ledger) :
    let delay := settings.retryDelay
    ((t.attemptsOn order).map (·.time) = (List.range (t.tried order)).map (order.beat delay)
        ∧ (t.attemptsOn order).Pairwise fun (a b : Attempt) => a.time < b.time)
      ∧ (t.Acknowledged order →
          (∃ failed a, t.attemptsOn order = failed ++ [a]
              ∧ (∀ b ∈ failed, b.succeeded = false) ∧ a.succeeded = true)
            ∧ ∀ u, Reaches t u → u.tried order = t.tried order)
      ∧ (¬t.Acknowledged order → ¬t.outbox.Overruled order → t.AtRest →
          ∀ m, m < t.tried order ↔ order.beat delay m ≤ t.outbox.clock)
      ∧ (t.outbox.Overruled order → ∃ first e second y z, es = first ++ e :: second
          ∧ Path Event.Patient first (new settings builder) y ∧ Overrules e order y z
          ∧ Path Event.Patient second z t)
      ∧ ∀ first e second y z, Path Event.Patient first (new settings builder) y →
          Overrules e order y z → Path Event.Patient second z t →
          t.tried order = z.tried order
            ∧ (¬y.Acknowledged order →
                ∀ m, order.beat delay m < z.outbox.clock → m < t.tried order)
            ∧ ∀ m < t.tried order, order.beat delay m ≤ z.outbox.clock := by
  intro delay
  have hnew : Paced delay (new settings builder) := paced_new settings builder
  have h : Paced delay t := hnew.path hpath
  refine ⟨⟨h.times order, h.pairwise_time hdelay order⟩, fun hack => ?acknowledged,
    fun hack hnot hrest => ?pending, fun hover => ?overruled,
    fun first e second y z hfirst hover hsecond => ?overruling⟩
  case acknowledged =>
    refine ⟨h.sound.exists_success hack, fun u hu => ?_⟩
    obtain ⟨_, more, hmore, hout⟩ := h.sound.acknowledged_reaches hack hu
    exact tried_eq_of_orders hmore hout
  case pending => exact h.lt_tried_iff hdelay hrest hmem hnot hack
  case overruled => exact exists_overruling hpath (fun hnone => nomatch hnone.mem_ledger) hover
  case overruling =>
    have hy : Paced delay y := hnew.path hfirst
    have hz : Sound z := hy.sound.move hover.move
    obtain ⟨_, more, hmore, hout⟩ := hz.overruled_reaches hover.after hsecond.reaches
    have htried : t.tried order = z.tried order := tried_eq_of_orders hmore hout
    -- only a command overrules an order, and it takes no time and starts no attempt
    obtain ⟨c, rfl⟩ := hover.exists_command
    have hclock : (y.ask c).outbox.clock = y.outbox.clock := Outbox.clock_run c y.outbox
    refine ⟨htried, fun hack m hm => ?_, fun m hm => ?_⟩
    · rw [htried]
      exact hy.lt_tried_of_overrules hdelay hover hack hm
    · rw [htried] at hm
      rw [hclock]
      exact hy.beat_le_clock hm

end Traffic

end RoutingSessions
