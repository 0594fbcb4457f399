/-
  RoutingSessions.Proofs.Outbox.Punctual — how long orders are put off.

  An attempt that fails puts its order off by the delay, and an order that was never
  tried is due at once.  So no order is ever due later than after one delay, and none
  waits without having been tried.

  Main statements:
    * `Punctual.run`, `Punctual.conclude`, `Punctual.tick` — no order is ever put off for
      longer than the delay.
    * `Punctual.asleep` — what an outbox in which nothing is due still has to do.
-/
import RoutingSessions.Proofs.Outbox.Pending

namespace RoutingSessions

namespace Outbox

/-! ## §1. How long orders are put off. -/

/-- The settings are these, and every intent is due after the delay at the latest; one that was
never tried is due at once. -/
structure Punctual (settings : CommandSettings) (o : Outbox) : Prop where
  settings_eq : o.settings = settings
  due_le : ∀ i ∈ o.intents, i.due ≤ o.clock + settings.retryDelay
  fresh : ∀ i ∈ o.intents, i.attempts = 0 → i.due ≤ o.clock

theorem punctual_new (settings : CommandSettings) (builder : CommandBuilder) :
    Punctual settings (new settings builder) where
  settings_eq := rfl
  due_le _ hi := nomatch hi
  fresh _ hi := nomatch hi

/-- To be canceled is not to be put off. -/
theorem due_cancelFor (k : Resource) (i : Intent) :
    (cancelFor k i).due = i.due ∧ (cancelFor k i).attempts = i.attempts := by
  unfold cancelFor
  split
  · exact ⟨rfl, rfl⟩
  · exact ⟨rfl, rfl⟩

/-- At the end of an attempt the order is put off, if it is not done with, and no other is
touched. -/
theorem mem_intents_conclude {i j : Intent} {reply : Reply} {o : Outbox}
    (hj : j ∈ (o.conclude i reply).intents) :
    (j ∈ o.intents ∧ j.order.ticket ≠ i.order.ticket)
      ∨ j.due = o.clock + o.settings.retryDelay := by
  have hkept : ∀ tally notes,
      j ∈ ({ o with tally := tally, notes := notes }.forget i.order.ticket).intents →
        j ∈ o.intents ∧ j.order.ticket ≠ i.order.ticket := by
    intro tally notes hj
    obtain ⟨hj, hticket⟩ := List.mem_filter.1 hj
    exact ⟨hj, of_decide_eq_true hticket⟩
  rcases conclude_cases i reply o with
    ⟨_, tally, notes, heq⟩ | ⟨_, _, tally, notes, heq⟩ | ⟨_, _, tally, notes, heq⟩
  · rw [heq] at hj
    exact .inl (hkept tally notes hj)
  · rw [heq] at hj
    exact .inl (hkept tally notes hj)
  · rw [heq] at hj
    obtain ⟨k, hk, rfl⟩ := List.mem_map.1 hj
    by_cases ht : k.order.ticket = i.order.ticket
    · rw [if_pos ht]
      exact .inr rfl
    · rw [if_neg ht]
      exact .inl ⟨hk, ht⟩

namespace Punctual

variable {settings : CommandSettings} {o : Outbox}

theorem accept (h : Punctual settings o) (k : Resource) (request : Request) :
    Punctual settings (o.accept k request) where
  settings_eq := (settings_accept k request o).trans h.settings_eq
  due_le i hi := by
    rw [clock_accept]
    rcases mem_intents_accept.1 hi with ⟨j, hj, rfl⟩ | rfl
    · rw [(due_cancelFor k j).1]
      exact h.due_le j hj
    · exact Nat.le_add_right _ _
  fresh i hi hnew := by
    rw [clock_accept]
    rcases mem_intents_accept.1 hi with ⟨j, hj, rfl⟩ | rfl
    · rw [(due_cancelFor k j).2] at hnew
      rw [(due_cancelFor k j).1]
      exact h.fresh j hj hnew
    · exact Nat.le_refl _

theorem shutDown (h : Punctual settings o) : Punctual settings o.shutDown where
  settings_eq := h.settings_eq
  due_le i hi := by
    obtain ⟨j, hj, rfl⟩ := List.mem_map.1 hi
    exact h.due_le j hj
  fresh i hi hnew := by
    obtain ⟨j, hj, rfl⟩ := List.mem_map.1 hi
    exact h.fresh j hj hnew

theorem run (h : Punctual settings o) (c : Command) : Punctual settings (o.run c).1 := by
  rcases run_cases c o with ⟨tally, notes, heq⟩ | ⟨change, request, _, _, _, heq⟩ | ⟨_, heq⟩
  · rw [heq]
    exact ⟨h.settings_eq, h.due_le, h.fresh⟩
  · rw [heq]
    exact h.accept _ _
  · rw [heq]
    exact h.shutDown

theorem forget (h : Punctual settings o) (ticket : Nat) : Punctual settings (o.forget ticket) where
  settings_eq := h.settings_eq
  due_le i hi := h.due_le i (List.mem_filter.1 hi).1
  fresh i hi := h.fresh i (List.mem_filter.1 hi).1

/-- What is put off is due after the delay exactly. -/
theorem postpone (h : Punctual settings o) (ticket : Nat) :
    Punctual settings (o.postpone ticket) where
  settings_eq := h.settings_eq
  due_le i hi := by
    obtain ⟨j, hj, rfl⟩ := List.mem_map.1 hi
    show _ ≤ o.clock + settings.retryDelay
    by_cases ht : j.order.ticket = ticket
    · exact Nat.le_of_eq (by rw [if_pos ht, h.settings_eq])
    · rw [if_neg ht]
      exact h.due_le j hj
  fresh i hi hnew := by
    obtain ⟨j, hj, rfl⟩ := List.mem_map.1 hi
    show _ ≤ o.clock
    by_cases ht : j.order.ticket = ticket
    · -- it has been tried once more, so it is not a fresh one
      rw [if_pos ht] at hnew
      exact absurd hnew (Nat.succ_ne_zero _)
    · rw [if_neg ht] at hnew ⊢
      exact h.fresh j hj hnew

theorem conclude (h : Punctual settings o) (i : Intent) (reply : Reply) :
    Punctual settings (o.conclude i reply) := by
  have hsame : ∀ tally notes, Punctual settings { o with tally := tally, notes := notes } :=
    fun _ _ => ⟨h.settings_eq, h.due_le, h.fresh⟩
  rcases conclude_cases i reply o with
    ⟨_, tally, notes, heq⟩ | ⟨_, _, tally, notes, heq⟩ | ⟨_, _, tally, notes, heq⟩
  · rw [heq]
    exact (hsame tally notes).forget _
  · rw [heq]
    exact (hsame tally notes).forget _
  · rw [heq]
    exact (hsame tally notes).postpone _

theorem tick (h : Punctual settings o) : Punctual settings { o with clock := o.clock + 1 } where
  settings_eq := h.settings_eq
  due_le i hi := by
    have hdue := h.due_le i hi
    show i.due ≤ o.clock + 1 + settings.retryDelay
    omega
  fresh i hi hnew := Nat.le_succ_of_le (h.fresh i hi hnew)

end Punctual

/-! ## §2. What is left to do. -/

/-- The order is pending and was tried; its next attempt comes later, but after the delay at the
latest. -/
structure Asleep (o : Outbox) (i : Intent) : Prop where
  pending : o.pendingFor? i.order.resource = some i
  tried : 0 < i.attempts
  later : o.clock < i.due
  soon : i.due ≤ o.clock + o.settings.retryDelay

/-- **What is not done with, and not due, is asleep.** -/
theorem Punctual.asleep {settings : CommandSettings} {o : Outbox} (h : Punctual settings o)
    (ho : o.Orderly) {i : Intent} (hi : i ∈ o.intents) (hc : i.canceled = false)
    (hlater : o.clock < i.due) : o.Asleep i := by
  refine ⟨ho.pendingFor?_eq_some.2 ⟨hi, hc, rfl⟩, ?tried, hlater, ?soon⟩
  case tried =>
    -- otherwise it would be due now
    by_contra hnew
    have hnow := h.fresh i hi (by omega)
    omega
  case soon =>
    rw [h.settings_eq]
    exact h.due_le i hi

end Outbox

end RoutingSessions
