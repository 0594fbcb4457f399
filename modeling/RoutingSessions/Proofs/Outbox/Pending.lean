/-
  RoutingSessions.Proofs.Outbox.Pending — what is pending for one resource.

  In an orderly outbox at most one intent is pending for a resource.  Every operation
  on the outbox is about one order, so for the pending intent of a resource it either
  says what becomes of it, or leaves it as it is.

  Main statements:
    * `pendingFor?_accept` — a new request takes the place of the pending one.
    * `pendingFor?_forget`, `pendingFor?_postpone` — what is done about one order does
      not matter to other resources.
    * `conclude_of_mem` — how an attempt for an order that still counts ends.
-/
import Mathlib.Data.List.Perm.Basic
import RoutingSessions.Proofs.Outbox.Orders

namespace RoutingSessions

namespace Outbox.Orderly

variable {o : Outbox} (h : Orderly o)
include h

/-! ## §1. New requests. -/

/-- An accepted request is what is pending for its resource, and for no other. -/
theorem pendingFor?_accept (hs : o.isShutDown = false) (k : Resource) (request : Request)
    (k' : Resource) :
    (o.accept k request).pendingFor? k'
      = if k = k' then some ⟨o.newOrder k request, 0, o.clock, false⟩ else o.pendingFor? k' := by
  have hafter := h.accept hs k request
  split
  next hk => exact hafter.pendingFor?_eq_some.2 ⟨mem_intents_accept.2 (.inr rfl), rfl, hk⟩
  next hk =>
    refine Option.ext fun i => ?_
    rw [hafter.pendingFor?_eq_some, h.pendingFor?_eq_some, mem_intents_accept]
    constructor
    · intro hi
      obtain ⟨⟨j, hj, rfl⟩ | rfl, hc, hi⟩ := hi
      · -- what is still pending was not touched
        obtain ⟨_, hother⟩ := not_canceled_cancelFor.1 hc
        have hkept : cancelFor k j = j := if_neg hother
        rw [hkept] at hc hi ⊢
        exact ⟨hj, hc, hi⟩
      · exact absurd hi hk
    · intro hi
      obtain ⟨hi, hc, rfl⟩ := hi
      exact ⟨.inl ⟨i, hi, if_neg fun heq => hk heq.symm⟩, hc, rfl⟩

/-! ## §2. Orders that go. -/

/-- To forget an order matters to no resource for which it is not pending. -/
theorem pendingFor?_forget {i : Intent} (hi : i ∈ o.intents) {k : Resource}
    (hk : i.canceled = true ∨ i.order.resource ≠ k) :
    (o.forget i.order.ticket).pendingFor? k = o.pendingFor? k := by
  refine Option.ext fun j => ?_
  rw [(h.forget _).pendingFor?_eq_some, h.pendingFor?_eq_some]
  constructor
  · intro hj
    obtain ⟨hmem, hj⟩ := hj
    exact ⟨(List.mem_filter.1 hmem).1, hj⟩
  · intro hj
    obtain ⟨hmem, hc, hjk⟩ := hj
    refine ⟨List.mem_filter.2 ⟨hmem, decide_eq_true fun ht => ?_⟩, hc, hjk⟩
    -- the order that goes is not the pending one
    rw [h.intent_eq hmem hi ht] at hc hjk
    rcases hk with hic | hne
    · rw [hc] at hic
      cases hic
    · exact hne hjk

/-- When the pending order is forgotten, nothing is pending. -/
theorem pendingFor?_forget_self {i : Intent} {k : Resource} (hi : o.pendingFor? k = some i) :
    (o.forget i.order.ticket).pendingFor? k = none := by
  refine Option.eq_none_iff_forall_ne_some.2 fun j hj => ?_
  obtain ⟨hmem, hc, hjk⟩ := (h.forget _).pendingFor?_eq_some.1 hj
  obtain ⟨hmem, hticket⟩ := List.mem_filter.1 hmem
  have hold := h.pendingFor?_eq_some.2 ⟨hmem, hc, hjk⟩
  rw [hi] at hold
  rw [Option.some.inj hold] at hticket
  exact of_decide_eq_true hticket rfl

/-- One intent, and the others. -/
theorem perm_forget {i : Intent} (hi : i ∈ o.intents) :
    o.intents.Perm (i :: (o.forget i.order.ticket).intents) := by
  obtain ⟨before, after, hsplit⟩ := List.append_of_mem hi
  have hothers : (o.forget i.order.ticket).intents = before ++ after := by
    have hascending := h.ascending
    rw [hsplit, List.pairwise_append, List.pairwise_cons] at hascending
    obtain ⟨_, ⟨hafter, _⟩, hbefore⟩ := hascending
    show o.intents.filter _ = before ++ after
    rw [hsplit, List.filter_append, List.filter_cons_of_neg (by simp)]
    congr 1
    · refine List.filter_eq_self.2 fun j hj => decide_eq_true ?_
      exact Nat.ne_of_lt (hbefore j hj i List.mem_cons_self)
    · refine List.filter_eq_self.2 fun j hj => decide_eq_true ?_
      exact Nat.ne_of_gt (hafter j hj)
  rw [hothers, hsplit]
  exact List.perm_middle

/-! ## §3. Orders that are put off. -/

/-- To put off an order matters to no other resource. -/
theorem pendingFor?_postpone {i : Intent} (hi : i ∈ o.intents) {k : Resource}
    (hk : i.order.resource ≠ k) :
    (o.postpone i.order.ticket).pendingFor? k = o.pendingFor? k := by
  have hafter := h.postpone i.order.ticket
  refine Option.ext fun j => ?_
  rw [hafter.pendingFor?_eq_some, h.pendingFor?_eq_some]
  constructor
  · intro hj
    obtain ⟨hmapped, hc, hjk⟩ := hj
    obtain ⟨j', hmem, rfl⟩ := List.mem_map.1 hmapped
    by_cases ht : j'.order.ticket = i.order.ticket
    · rw [if_pos ht, h.intent_eq hmem hi ht] at hjk
      exact absurd hjk hk
    · rw [if_neg ht] at hc hjk ⊢
      exact ⟨hmem, hc, hjk⟩
  · intro hj
    obtain ⟨hmem, hc, hjk⟩ := hj
    refine ⟨List.mem_map.2 ⟨j, hmem, if_neg fun ht => ?_⟩, hc, hjk⟩
    rw [h.intent_eq hmem hi ht] at hjk
    exact hk hjk

/-- The pending order is put off by the delay. -/
theorem pendingFor?_postpone_self {i : Intent} {k : Resource} (hi : o.pendingFor? k = some i) :
    (o.postpone i.order.ticket).pendingFor? k
      = some { i with attempts := i.attempts + 1, due := o.clock + o.settings.retryDelay } := by
  have hafter := h.postpone i.order.ticket
  obtain ⟨hmem, hc, hk⟩ := h.pendingFor?_eq_some.1 hi
  exact hafter.pendingFor?_eq_some.2 ⟨List.mem_map.2 ⟨i, hmem, if_pos rfl⟩, hc, hk⟩

/-! ## §4. The end of an attempt. -/

/-- How an attempt for an order that still counts ends. -/
theorem conclude_of_mem {i : Intent} (hi : i ∈ o.intents) (hc : i.canceled = false)
    (reply : Reply) : ∃ tally notes, o.conclude i reply =
      if reply.acknowledged then
        { o with tally := tally, notes := notes }.forget i.order.ticket
      else { o with tally := tally, notes := notes }.postpone i.order.ticket := by
  rcases conclude_cases i reply o with
    ⟨hcanceled, _⟩ | ⟨_, hack, tally, notes, heq⟩ | ⟨_, hack, tally, notes, heq⟩
  · rw [h.canceled_eq_of_isCanceled hi hcanceled] at hc
    cases hc
  · exact ⟨tally, notes, by rw [heq, if_pos hack]⟩
  · exact ⟨tally, notes, by rw [heq, if_neg (by rw [hack]; exact Bool.false_ne_true)]⟩

end Outbox.Orderly

end RoutingSessions
