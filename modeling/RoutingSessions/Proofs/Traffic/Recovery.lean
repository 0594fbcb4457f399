/-
  RoutingSessions.Proofs.Traffic.Recovery — recovery within one delay, with attempts that overlap.

  At rest nothing is under way, and every order that is not done with is asleep: it wakes
  up after one delay at the latest.  This holds wherever events lead, however much time
  the attempts take.

  If from then on the engine acknowledges what it is sent, nothing more is asked, and time
  passes only when nothing is left to do, each of these orders is tried once, when it is
  due.  Orders that are due at the same time may be tried in any order, or all at once.
  An order that is being tried is still among those that are left, so what is kept on the
  way is not a partition: no order is lost, no order is tried twice, and none is tried at
  another time.  At rest these three make a permutation.

  Main statements:
    * `asleep_of_path` — what is left at rest.
    * `Recovers.move` — what is kept on the way.
    * `recovery_of_path` — each order that is left is tried once, when it is due.
-/
import Mathlib.Data.List.Nodup
import Mathlib.Data.List.Perm.Lattice
import RoutingSessions.Proofs.Outbox.Punctual
import RoutingSessions.Proofs.Traffic.Sound

namespace RoutingSessions

namespace Traffic

/-! ## §1. What is left at rest. -/

variable {settings : CommandSettings} {builder : CommandBuilder} {e : Event} {t u v : Traffic}

/-- No order is ever put off for longer than the delay. -/
theorem punctual_move (h : t.outbox.Punctual settings) (hmove : Move e t u) :
    u.outbox.Punctual settings := by
  cases hmove with
  | ask c => exact h.run c
  | tick => exact h.tick
  | forget _ _ _ => exact h.forget _
  | start _ => exact h
  | finish reply _ => exact h.conclude _ reply

theorem punctual_of_path {ok : Event → Traffic → Prop} {es : List Event}
    (hpath : Path ok es (new settings builder) t) : t.outbox.Punctual settings :=
  hpath.preserves (P := fun u => u.outbox.Punctual settings)
    (fun _ _ _ hu _ hmove => punctual_move hu hmove) (Outbox.punctual_new settings builder)

/-- **At rest, every order that is not done with is asleep**, wherever events have led. -/
theorem asleep_of_path {ok : Event → Traffic → Prop} {es : List Event}
    (hpath : Path ok es (new settings builder) t) (hrest : t.AtRest) :
    ∀ i ∈ t.outbox.intents, t.outbox.Asleep i := by
  intro i hi
  have hsound : Sound t := (sound_new settings builder).path hpath
  obtain ⟨hc, hlater⟩ := hsound.later_of_atRest hrest hi
  exact (punctual_of_path hpath).asleep hsound.accounts.toOrderly hi hc hlater

/-- The times at which the orders left are due. -/
def alarms (t : Traffic) : List (Nat × Order) := t.outbox.intents.map fun i => (i.due, i.order)

theorem Sound.nodup_alarms (h : Sound t) : t.alarms.Nodup := by
  refine List.pairwise_map.2 (h.accounts.ascending.imp fun {i j} hlt heq => ?_)
  have horder : i.order = j.order := congrArg Prod.snd heq
  rw [horder] at hlt
  exact Nat.lt_irrefl _ hlt

/-! ## §2. Smooth events. -/

/-- Nothing is asked but how much is pending, and attempts end well. -/
def Event.Smooth : Event → Prop
  | .ask c => c = .count
  | .tick => True
  | .forget _ => True
  | .start _ => True
  | .finish _ reply => reply.acknowledged = true

/-- From `t` to `u`, no order was lost, none was tried twice, and none at another time than the one
at which it was due. -/
structure Recovers (t u : Traffic) : Prop where
  left : ∀ i ∈ u.outbox.intents, i ∈ t.outbox.intents ∧ u.outbox.clock ≤ i.due
  attempts : ∃ new, u.attempts = t.attempts ++ new
    ∧ (∀ a ∈ new, (a.time, a.order) ∈ t.alarms ∧ (a.reply ≠ none → a.succeeded = true))
    ∧ (new.map (·.order)).Nodup
  done : ∀ i ∈ t.outbox.intents, i ∈ u.outbox.intents ∨ u.Acknowledged i.order

namespace Recovers

theorem refl (ht : Sound t) (hrest : t.AtRest) : Recovers t t where
  left i hi := ⟨hi, Nat.le_of_lt (ht.later_of_atRest hrest hi).2⟩
  attempts := by
    refine ⟨[], (List.append_nil _).symm, fun _ ha => ?_, List.nodup_nil⟩
    cases ha
  done i hi := .inl hi

/-- What starts is tried for the first time, and at the time at which it is due. -/
theorem start (h : Recovers t u) (hu : Sound u) {i : Intent} (hi : u.MayStart i) :
    Recovers t (u.start i) where
  left := h.left
  attempts := by
    obtain ⟨new, hattempts, hnew, hnodup⟩ := h.attempts
    obtain ⟨hold, hdue⟩ := h.left i hi.mem_intents
    refine ⟨new ++ [⟨u.outbox.clock, i.order, none⟩], ?_, fun a ha => ?_, ?_⟩
    · show u.attempts ++ _ = _
      rw [hattempts, List.append_assoc]
    · rcases List.mem_append.1 ha with ha | ha
      · exact hnew a ha
      · rw [List.mem_singleton.1 ha]
        refine ⟨List.mem_map.2 ⟨i, hold, ?_⟩, fun hne => absurd rfl hne⟩
        rw [Nat.le_antisymm hi.due hdue]
    · rw [List.map_append]
      refine List.nodup_append.2 ⟨hnodup, List.nodup_singleton _, fun o ho o' ho' heq => ?_⟩
      obtain ⟨a, ha, rfl⟩ := List.mem_map.1 ho
      have hsame : a.order = i.order := heq.trans (List.mem_singleton.1 ho')
      have hmem : a ∈ u.attempts := by
        rw [hattempts]
        exact List.mem_append_right _ ha
      -- an attempt for it would have succeeded by now, and then it would not be pending
      have hsucc := (hnew a ha).2 (hi.idle a hmem hsame)
      exact hu.accounts.unanswered i hi.mem_intents hi.live ⟨a, hmem, hsame, hsucc⟩
  done j hj := by
    rcases h.done j hj with hleft | hack
    · exact .inl hleft
    · exact .inr ((acknowledged_start _).2 hack)

/-- What is acknowledged is not left any more. -/
theorem finish (h : Recovers t u) (ht : t.AtRest) (hu : Sound u) {i : Intent}
    (hi : u.UnderWay i.order) {reply : Reply} (hack : reply.acknowledged = true) :
    Recovers t (u.finish i reply) := by
  have hsucceed : (u.finish i reply).outbox = u.outbox.succeed i :=
    hu.outbox_finish hi (fun j hj => ht.live j (h.left j hj).1) hack
  refine ⟨?left, ?attempts, fun j hj => ?done⟩
  case left =>
    rw [hsucceed]
    exact fun j hj => h.left j (List.mem_filter.1 hj).1
  case attempts =>
    obtain ⟨new, hattempts, hnew, hnodup⟩ := h.attempts
    refine ⟨new.map (answer i.order reply), ?_, fun b hb => ?_, ?_⟩
    · show u.attempts.map _ = _
      rw [hattempts, List.map_append, map_answer_of_ended ht.idle]
    · obtain ⟨a, ha, rfl⟩ := List.mem_map.1 hb
      rw [time_answer, order_answer]
      exact ⟨(hnew a ha).1, succeeded_answer hack (hnew a ha).2⟩
    · have horders : (new.map (answer i.order reply)).map (·.order) = new.map (·.order) := by
        rw [List.map_map]
        exact List.map_congr_left fun a _ => order_answer a
      rw [horders]
      exact hnodup
  case done =>
    rcases h.done j hj with hleft | hdone
    · by_cases hticket : j.order.ticket = i.order.ticket
      · -- it is the order that was tried
        have hji : j.order = i.order := by
          obtain ⟨a, ha, hai, _⟩ := hi
          rw [← hai] at hticket ⊢
          exact hu.accounts.order_eq (hu.accounts.mem_ledger j hleft) (hu.known a ha) hticket
        exact .inr ((acknowledged_finish hi _).2 (.inr ⟨hji, hack⟩))
      · rw [hsucceed]
        exact .inl (List.mem_filter.2 ⟨hleft, decide_eq_true hticket⟩)
    · exact .inr ((acknowledged_finish hi _).2 (.inl hdone))

/-- **What is kept on the way.** -/
theorem move (h : Recovers t u) (ht : t.AtRest) (hu : Sound u) (hsmooth : e.Smooth)
    (hpatient : e.Patient u) (hmove : Move e u v) : Recovers t v := by
  cases hmove with
  | ask c =>
    -- asking how much is pending changes nothing
    obtain rfl : c = .count := hsmooth
    exact h
  | tick =>
    refine ⟨fun i hi => ⟨(h.left i hi).1, ?_⟩, h.attempts, h.done⟩
    exact (hu.later_of_atRest (hpatient rfl) hi).2
  | @forget i _ hi hc _ =>
    -- nothing that is left is canceled
    have hlive := ht.live i (h.left i hi).1
    rw [hc] at hlive
    cases hlive
  | start hi => exact h.start hu hi
  | finish reply hi => exact h.finish ht hu hi hsmooth

theorem path {es : List Event} (h : Recovers t u) (ht : t.AtRest) (hu : Sound u)
    (hpath : Path (fun e w => e.Smooth ∧ e.Patient w) es u v) : Recovers t v :=
  (hpath.preserves (P := fun w => Sound w ∧ Recovers t w)
    (fun _ _ _ hw hok hmove => ⟨hw.1.move hmove, hw.2.move ht hw.1 hok.1 hok.2 hmove⟩)
    ⟨hu, h⟩).2

/-! ## §3. Recovery. -/

/-- When all that was left is due by now, nothing is left. -/
theorem intents_eq_nil (h : Recovers t u) (hu : Sound u) (hrest : u.AtRest)
    (hdue : ∀ i ∈ t.outbox.intents, i.due ≤ u.outbox.clock) : u.outbox.intents = [] := by
  refine List.eq_nil_iff_forall_not_mem.2 fun i hi => ?_
  have hpast := hdue i (h.left i hi).1
  have hlater := (hu.later_of_atRest hrest hi).2
  omega

/-- With nothing left, what was tried is what was left before. -/
theorem perm_alarms (h : Recovers t u) (ht : Sound t) (hrest : t.AtRest)
    (hnil : u.outbox.intents = []) : ∃ new, u.attempts = t.attempts ++ new
      ∧ (new.map fun a => (a.time, a.order)).Perm t.alarms := by
  obtain ⟨new, hattempts, hnew, hnodup⟩ := h.attempts
  refine ⟨new, hattempts, ?_⟩
  have hpairs : (new.map fun a => (a.time, a.order)).Nodup := by
    refine List.Nodup.of_map Prod.snd ?_
    rw [List.map_map]
    exact hnodup
  refine (List.perm_ext_iff_of_nodup hpairs ht.nodup_alarms).2 fun p => ⟨fun hp => ?_, fun hp => ?_⟩
  · obtain ⟨a, ha, rfl⟩ := List.mem_map.1 hp
    exact (hnew a ha).1
  · obtain ⟨i, hi, rfl⟩ := List.mem_map.1 hp
    -- it is not left any more, so it was acknowledged, and not before
    have hdone : u.Acknowledged i.order := by
      refine (h.done i hi).resolve_left fun hleft => ?_
      rw [hnil] at hleft
      cases hleft
    obtain ⟨a, ha, hai, hsucc⟩ := hdone
    rw [hattempts, List.mem_append] at ha
    rcases ha with ha | ha
    · exact absurd ⟨a, ha, hai, hsucc⟩ (ht.accounts.unanswered i hi (hrest.live i hi))
    · -- its alarm is the only one for the order
      obtain ⟨j, hj, hja⟩ := List.mem_map.1 (hnew a ha).1
      have hticket : j.order.ticket = i.order.ticket := by
        rw [← hai]
        exact congrArg (fun p : Nat × Order => p.2.ticket) hja
      rw [← ht.accounts.intent_eq hj hi hticket, hja]
      exact List.mem_map_of_mem ha

end Recovers

/-- **Recovery within one delay.**  Wherever events have led: at rest, every order that is not done
with is asleep.  If from then on nothing is asked but how much is pending, every attempt is
acknowledged, and time passes only when nothing is left to do, then at rest, when the delay has
passed, each of these orders was tried once, at the time for which it was put off, and nothing else
was tried.  All attempts succeeded, they were for the orders last accepted for their resources, and
nothing is left to do. -/
theorem recovery_of_path {ok : Event → Traffic → Prop} {past : List Event}
    (hpath : Path ok past (new settings builder) t) (hrest : t.AtRest) :
    (∀ i ∈ t.outbox.intents, t.outbox.Asleep i)
      ∧ ∀ (more : List Event) u, Path (fun e w => e.Smooth ∧ e.Patient w) more t u → u.AtRest →
          t.outbox.clock + settings.retryDelay ≤ u.outbox.clock →
          ∃ new, u.attempts = t.attempts ++ new
            ∧ (new.map fun a => (a.time, a.order)).Perm t.alarms
            ∧ (∀ a ∈ new, a.succeeded = true
                ∧ t.outbox.latest? a.order.resource = some a.order)
            ∧ u.outbox.intents = [] ∧ u.outbox.pendingCount = 0 := by
  refine ⟨asleep_of_path hpath hrest, fun more u hmore hend hlater => ?_⟩
  have ht : Sound t := (sound_new settings builder).path hpath
  have hu : Sound u := ht.path hmore
  have h : Recovers t u := (Recovers.refl ht hrest).path hrest ht hmore
  have hnil : u.outbox.intents = [] :=
    h.intents_eq_nil hu hend fun i hi =>
      Nat.le_trans ((punctual_of_path hpath).due_le i hi) hlater
  obtain ⟨new, hattempts, hperm⟩ := h.perm_alarms ht hrest hnil
  refine ⟨new, hattempts, hperm, fun a ha => ⟨?succeeded, ?latest⟩, hnil, ?count⟩
  case succeeded =>
    obtain ⟨new', hattempts', hnew, _⟩ := h.attempts
    obtain rfl : new = new' := List.append_cancel_left (hattempts.symm.trans hattempts')
    refine (hnew a ha).2 (hend.idle a ?_)
    rw [hattempts]
    exact List.mem_append_right _ ha
  case latest =>
    -- what was tried was pending
    obtain ⟨i, hi, hia⟩ := List.mem_map.1 (hperm.subset (List.mem_map_of_mem ha))
    have horder : i.order = a.order := congrArg Prod.snd hia
    rw [← horder]
    exact ht.accounts.current i hi (hrest.live i hi)
  case count =>
    show u.outbox.intents.countP _ = 0
    rw [hnil]
    rfl

end Traffic

end RoutingSessions
