/-
  RoutingSessions.Proofs.Outbox.Beats — when a pending order is due.

  The beats of an order are the time at which it was placed and the times that follow
  after every delay.  A pending order that was tried so many times is due on the beat
  of that number.  When it is placed, that is its first beat; when an attempt on a beat
  fails, it is put off by the delay, which is to the next beat.

  How often an order was tried is not for the outbox to say: the intents that it keeps
  count their own attempts, but they go when the order is done with.  So the number of
  attempts for each order is a parameter here, and only the end of an attempt adds to it.

  Main statements:
    * `Armed.run` — commands leave every pending order armed for its beat.
    * `Armed.conclude` — the end of an attempt arms the order for the next beat.
    * `placed_runAll` — an order bears the time at which it was accepted.
-/
import RoutingSessions.Proofs.Outbox.Punctual

namespace RoutingSessions

/-! ## §1. Beats. -/

/-- When the attempts for an order are due: when it was placed, and then after every delay. -/
def Order.beat (order : Order) (delay n : Nat) : Nat := order.placed + n * delay

namespace Order

variable {delay m n : Nat}

theorem beat_succ (order : Order) (delay n : Nat) :
    order.beat delay (n + 1) = order.beat delay n + delay := by
  unfold beat
  rw [Nat.succ_mul, Nat.add_assoc]

theorem beat_lt (hdelay : 0 < delay) (order : Order) :
    order.beat delay m < order.beat delay n ↔ m < n := by
  unfold beat
  rw [Nat.add_lt_add_iff_left, Nat.mul_lt_mul_right hdelay]

end Order

/-! ## §2. What a pending order is armed for. -/

namespace Outbox

/-- Every pending order is due on its beat, given how often each order was tried, and not in the
past. -/
structure Armed (delay : Nat) (tried : Order → Nat) (o : Outbox) : Prop where
  delay_eq : o.settings.retryDelay = delay
  /-- No order is tried before it is accepted. -/
  untried : ∀ order, order ∉ o.ledger → tried order = 0
  placed_le : ∀ order ∈ o.ledger, order.placed ≤ o.clock
  due_eq : ∀ i ∈ o.intents, i.canceled = false → i.due = i.order.beat delay (tried i.order)
  ahead : ∀ i ∈ o.intents, i.canceled = false → o.clock ≤ i.due

theorem armed_new (settings : CommandSettings) (builder : CommandBuilder) :
    Armed settings.retryDelay (fun _ => 0) (new settings builder) where
  delay_eq := rfl
  untried _ _ := rfl
  placed_le _ h := nomatch h
  due_eq _ h := nomatch h
  ahead _ h := nomatch h

namespace Armed

variable {delay : Nat} {tried : Order → Nat} {o : Outbox}

/-- A new order is armed for its first beat, which is now. -/
theorem accept (h : Armed delay tried o) (ho : o.Orderly) (k : Resource) (request : Request) :
    Armed delay tried (o.accept k request) where
  delay_eq := by rw [settings_accept, h.delay_eq]
  untried order hnot := by
    rw [mem_ledger_accept, not_or] at hnot
    exact h.untried order hnot.1
  placed_le order hmem := by
    rw [clock_accept]
    rcases mem_ledger_accept.1 hmem with hmem | rfl
    · exact h.placed_le order hmem
    · exact Nat.le_refl _
  due_eq i hi hc := by
    rcases mem_intents_accept.1 hi with ⟨j, hj, rfl⟩ | rfl
    · rw [(due_cancelFor k j).1, order_cancelFor]
      exact h.due_eq j hj (not_canceled_cancelFor.1 hc).1
    · show o.clock = o.clock + tried (o.newOrder k request) * delay
      rw [h.untried _ (ho.newOrder_not_mem k request), Nat.zero_mul, Nat.add_zero]
  ahead i hi hc := by
    rw [clock_accept]
    rcases mem_intents_accept.1 hi with ⟨j, hj, rfl⟩ | rfl
    · rw [(due_cancelFor k j).1]
      exact h.ahead j hj (not_canceled_cancelFor.1 hc).1
    · exact Nat.le_refl _

/-- After a shutdown nothing is pending. -/
theorem shutDown (h : Armed delay tried o) : Armed delay tried o.shutDown where
  delay_eq := h.delay_eq
  untried := h.untried
  placed_le := h.placed_le
  due_eq _ hi hc := by
    obtain ⟨j, _, rfl⟩ := List.mem_map.1 hi
    cases hc
  ahead _ hi hc := by
    obtain ⟨j, _, rfl⟩ := List.mem_map.1 hi
    cases hc

theorem run (h : Armed delay tried o) (ho : o.Orderly) (c : Command) :
    Armed delay tried (o.run c).1 := by
  rcases run_cases c o with ⟨tally, notes, heq⟩ | ⟨change, request, _, _, _, heq⟩ | ⟨_, heq⟩
  · rw [heq]
    exact ⟨h.delay_eq, h.untried, h.placed_le, h.due_eq, h.ahead⟩
  · rw [heq]
    exact h.accept ho _ _
  · rw [heq]
    exact h.shutDown

theorem forget (h : Armed delay tried o) (ticket : Nat) : Armed delay tried (o.forget ticket) where
  delay_eq := h.delay_eq
  untried := h.untried
  placed_le := h.placed_le
  due_eq i hi := h.due_eq i (List.mem_filter.1 hi).1
  ahead i hi := h.ahead i (List.mem_filter.1 hi).1

/-- When nothing is due, the next millisecond is not too late for anything. -/
theorem tick (h : Armed delay tried o)
    (hlater : ∀ i ∈ o.intents, i.canceled = false → o.clock < i.due) :
    Armed delay tried { o with clock := o.clock + 1 } where
  delay_eq := h.delay_eq
  untried := h.untried
  placed_le order hmem := Nat.le_succ_of_le (h.placed_le order hmem)
  due_eq := h.due_eq
  ahead := hlater

/-- How often each order was tried, after one more attempt for this one. -/
def again (order : Order) (tried : Order → Nat) (other : Order) : Nat :=
  if other = order then tried other + 1 else tried other

section Again

variable (h : Armed delay tried o) {order : Order} (hmem : order ∈ o.ledger)
include h hmem

theorem untried_again (other : Order) (hnot : other ∉ o.ledger) : again order tried other = 0 := by
  have hne : other ≠ order := fun heq => hnot (by rw [heq]; exact hmem)
  rw [again, if_neg hne]
  exact h.untried other hnot

/-- An order that is done with is armed for nothing. -/
theorem forget_again : Armed delay (again order tried) (o.forget order.ticket) where
  delay_eq := h.delay_eq
  untried := h.untried_again hmem
  placed_le := h.placed_le
  due_eq i hi hc := by
    obtain ⟨hi, hne⟩ := List.mem_filter.1 hi
    rw [again, if_neg fun heq => of_decide_eq_true hne (congrArg Order.ticket heq)]
    exact h.due_eq i hi hc
  ahead i hi hc := h.ahead i (List.mem_filter.1 hi).1 hc

/-- An order that is put off on its beat is armed for the next one. -/
theorem postpone_again (ho : o.Orderly) (hnow : order.beat delay (tried order) = o.clock) :
    Armed delay (again order tried) (o.postpone order.ticket) where
  delay_eq := h.delay_eq
  untried := h.untried_again hmem
  placed_le := h.placed_le
  due_eq i hi hc := by
    obtain ⟨j, hj, rfl⟩ := List.mem_map.1 hi
    by_cases ht : j.order.ticket = order.ticket
    · have hsame : j.order = order := ho.order_eq (ho.mem_ledger j hj) hmem ht
      rw [if_pos ht]
      show o.clock + o.settings.retryDelay = j.order.beat delay (again order tried j.order)
      rw [hsame, again, if_pos rfl, Order.beat_succ, hnow, h.delay_eq]
    · rw [if_neg ht] at hc ⊢
      rw [again, if_neg fun heq => ht (congrArg Order.ticket heq)]
      exact h.due_eq j hj hc
  ahead i hi hc := by
    obtain ⟨j, hj, rfl⟩ := List.mem_map.1 hi
    show o.clock ≤ _
    by_cases ht : j.order.ticket = order.ticket
    · rw [if_pos ht]
      exact Nat.le_add_right _ _
    · rw [if_neg ht] at hc ⊢
      exact h.ahead j hj hc

end Again

/-- **The end of an attempt arms the order for its next beat**, unless the order is done with. -/
theorem conclude (h : Armed delay tried o) (ho : o.Orderly) {i : Intent} (hi : i.order ∈ o.ledger)
    (hnow : i.order.beat delay (tried i.order) = o.clock) (reply : Reply) :
    Armed delay (again i.order tried) (o.conclude i reply) := by
  have hcounted : ∀ tally notes, Armed delay tried { o with tally := tally, notes := notes } :=
    fun _ _ => ⟨h.delay_eq, h.untried, h.placed_le, h.due_eq, h.ahead⟩
  rcases conclude_cases i reply o with
    ⟨_, tally, notes, heq⟩ | ⟨_, _, tally, notes, heq⟩ | ⟨_, _, tally, notes, heq⟩
  · rw [heq]
    exact (hcounted tally notes).forget_again hi
  · rw [heq]
    exact (hcounted tally notes).forget_again hi
  · rw [heq]
    exact (hcounted tally notes).postpone_again hi (ho.count tally notes) hnow

end Armed

/-! ## §3. When orders are placed. -/

variable {o : Outbox} {order : Order}

/-- A command places an order now. -/
theorem placed_run (c : Command) (hmem : order ∈ (o.run c).1.ledger) :
    order ∈ o.ledger ∨ o.clock ≤ order.placed := by
  rcases run_cases c o with ⟨tally, notes, heq⟩ | ⟨change, request, _, _, _, heq⟩ | ⟨_, heq⟩
  · rw [heq] at hmem
    exact .inl hmem
  · rw [heq, mem_ledger_accept] at hmem
    rcases hmem with hmem | rfl
    · exact .inl hmem
    · exact .inr (Nat.le_refl _)
  · rw [heq] at hmem
    exact .inl hmem

theorem placed_runAll (cs : List Command) (hmem : order ∈ (o.runAll cs).1.ledger) :
    order ∈ o.ledger ∨ o.clock ≤ order.placed := by
  induction cs generalizing o with
  | nil => exact .inl hmem
  | cons c cs ih =>
    rcases ih (o := (o.run c).1) hmem with hold | hlater
    · exact placed_run c hold
    · rw [clock_run] at hlater
      exact .inr hlater

end Outbox

end RoutingSessions
