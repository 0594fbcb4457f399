/-
  RoutingSessions.Proofs.Outbox.Fates — what becomes of commands, and what is counted.

  A command is accepted, or there is no request for it, or it comes too late; or it
  shuts the outbox down, and then what was pending is dropped.  Its fate is read off
  the answer of the outbox, not off the counters.  So it makes sense to ask whether
  the counters are right.

  An order leaves the pending ones in three ways: a newer one supersedes it, a shutdown
  drops it, or an attempt for it succeeds.  The first two happen to commands, the third
  at the end of an attempt, and then only if the first two have not happened before.

  Main statements:
    * `run_cases_fate` — what a command does, by its fate.
    * `Booked.runAll` — what commands change about the counters.
    * `tally_conclude` — what the end of an attempt changes about them.
    * `exists_intent_runAll` — which orders commands overrule.
-/
import Mathlib.Algebra.GroupWithZero.Nat
import Mathlib.Data.List.Nodup
import RoutingSessions.Proofs.Outbox.Pending

namespace RoutingSessions

/-- No answer came in time. -/
def Reply.silent : Reply → Bool
  | .response _ => false
  | .silence => true
  | .breakdown => false

/-- The engine refused, or the attempt broke down. -/
def Reply.failed : Reply → Bool
  | .response r => !r.acknowledged
  | .silence => false
  | .breakdown => true

/-- An attempt succeeds, fails, or has no answer. -/
theorem Reply.kinds (reply : Reply) :
    (if reply.acknowledged then 1 else 0) + (if reply.failed then 1 else 0)
      + (if reply.silent then 1 else 0) = 1 := by
  cases reply with
  | response r =>
    show (if r.acknowledged then 1 else 0) + (if !r.acknowledged then 1 else 0) + 0 = 1
    cases r.acknowledged <;> rfl
  | silence => rfl
  | breakdown => rfl

namespace Outbox

/-! ## §1. Fates. -/

/-- What becomes of a command. -/
inductive Fate where
  /-- It is accepted, and there is an order for the resource. -/
  | accepted (k : Resource)
  /-- There is no request for it. -/
  | misnamed
  /-- It comes after a shutdown. -/
  | late
  /-- It is a shutdown, and drops so many pending orders. -/
  | shutDown (dropped : Nat)
  /-- It asks how many orders are pending. -/
  | count
deriving DecidableEq

namespace Fate

/-- There is an order for the command. -/
def isAccepted : Fate → Bool
  | accepted _ => true
  | _ => false

/-- The command is a naming error. -/
def isMisnamed : Fate → Bool
  | misnamed => true
  | _ => false

/-- How many pending orders are dropped. -/
def dropped : Fate → Nat
  | shutDown n => n
  | _ => 0

/-- The orders for the resource so far do not count any more. -/
def overrules (k : Resource) : Fate → Bool
  | accepted j => k = j
  | shutDown _ => true
  | _ => false

end Fate

/-- What becomes of a command for a change, by what the outbox says. -/
def verdict (c : Change) (o : Outbox) : Fate :=
  match (o.submit c).2 with
  | .ok () => .accepted c.resource
  | .error (.naming _) => .misnamed
  | .error _ => .late

/-- What becomes of a command. -/
def fate (c : Command) (o : Outbox) : Fate :=
  match c with
  | .submit change => o.verdict change
  | .relay change => o.verdict change
  | .shutDown => .shutDown o.pendingCount
  | .count => .count

/-- What becomes of commands that come one after the other. -/
def fates : List Command → Outbox → List Fate
  | [], _ => []
  | c :: cs, o => o.fate c :: fates cs (o.run c).1

theorem submit_of_isOpen {o : Outbox} {c : Change} {request : Request}
    (hs : ¬o.isShutDown = true)
    (hr : o.builder.request o.settings.targetRouter c.action c.resource = .ok request) :
    o.submit c = (o.accept c.resource request, .ok ()) := by
  unfold submit
  rw [hr]
  exact if_neg hs

/-- What a command for a change does, by what becomes of it. -/
theorem submit_cases_verdict (c : Change) (o : Outbox) :
    (∃ request, o.verdict c = .accepted c.resource ∧ o.isShutDown = false
        ∧ o.submit c = (o.accept c.resource request, .ok ()))
      ∨ (∃ e, o.verdict c = .misnamed
        ∧ o.submit c = ({ o with
            tally := { o.tally with namingErrors := o.tally.namingErrors + 1 } },
            .error (.naming e)))
      ∨ (o.verdict c = .late ∧ o.isShutDown = true ∧ o.submit c = (o, .error .shutDown)) := by
  unfold verdict
  cases hr : o.builder.request o.settings.targetRouter c.action c.resource with
  | error e =>
    rw [submit_of_naming_error hr]
    exact .inr (.inl ⟨e, rfl, rfl⟩)
  | ok request =>
    by_cases hs : o.isShutDown = true
    · rw [submit_of_isShutDown hs hr]
      exact .inr (.inr ⟨rfl, hs, rfl⟩)
    · rw [submit_of_isOpen hs hr]
      exact .inl ⟨request, rfl, Bool.eq_false_iff.2 hs, rfl⟩

/-- **What a command does, by its fate.** -/
theorem run_cases_fate (c : Command) (o : Outbox) :
    (∃ k request, o.fate c = .accepted k ∧ o.isShutDown = false
        ∧ (o.run c).1 = o.accept k request)
      ∨ (∃ notes, o.fate c = .misnamed
        ∧ (o.run c).1 = { o with
            tally := { o.tally with namingErrors := o.tally.namingErrors + 1 }
            notes := notes })
      ∨ (∃ notes, o.fate c = .late ∧ o.isShutDown = true
        ∧ (o.run c).1 = { o with notes := notes })
      ∨ (c = .shutDown ∧ o.fate c = .shutDown o.pendingCount ∧ (o.run c).1 = o.shutDown)
      ∨ (o.fate c = .count ∧ (o.run c).1 = o) := by
  cases c with
  | submit change =>
    unfold run
    rcases submit_cases_verdict change o with
      ⟨request, hfate, hs, heq⟩ | ⟨e, hfate, heq⟩ | ⟨hfate, hs, heq⟩
    · exact .inl ⟨change.resource, request, hfate, hs, by simp only [heq]⟩
    · exact .inr (.inl ⟨o.notes, hfate, by simp only [heq]⟩)
    · exact .inr (.inr (.inl ⟨o.notes, hfate, hs, by simp only [heq]⟩))
  | relay change =>
    -- a change that was observed differs in the note about a refusal
    show _ ∨ (∃ notes, _ ∧ o.relay change = _) ∨ (∃ notes, _ ∧ _ ∧ o.relay change = _) ∨ _
    unfold relay
    rcases submit_cases_verdict change o with
      ⟨request, hfate, hs, heq⟩ | ⟨e, hfate, heq⟩ | ⟨hfate, hs, heq⟩
    · exact .inl ⟨change.resource, request, hfate, hs, by simp only [run, relay, heq]⟩
    · exact .inr (.inl ⟨_, hfate, by simp only [heq]; rfl⟩)
    · exact .inr (.inr (.inl ⟨_, hfate, hs, by simp only [heq]; rfl⟩))
  | shutDown => exact .inr (.inr (.inr (.inl ⟨rfl, rfl, rfl⟩)))
  | count => exact .inr (.inr (.inr (.inr ⟨rfl, rfl⟩)))

/-! ## §2. What commands count. -/

/-- A new request takes the place of the pending one in the keys. -/
theorem pendingKeys_accept (k : Resource) (request : Request) (o : Outbox) :
    (o.accept k request).pendingKeys = o.pendingKeys.filter (· ≠ k) ++ [k] := by
  -- what is not canceled afterwards was not canceled before, and is for another resource
  have hkept : ∀ i : Intent, (!(cancelFor k i).canceled)
      = (decide (i.order.resource ≠ k) && !i.canceled) := by
    intro i
    rw [Bool.eq_iff_iff, Bool.not_eq_true', not_canceled_cancelFor]
    simp [and_comm]
  have hresource : (fun i : Intent => i.order.resource) ∘ cancelFor k
      = fun i => i.order.resource :=
    funext fun i => congrArg Order.resource (order_cancelFor k i)
  unfold pendingKeys
  rw [intents_accept, List.filter_append, List.map_append, List.filter_map, List.map_map, hresource,
    List.filter_map, List.filter_filter]
  congr 2
  exact List.filter_congr fun i _ => hkept i

/-- A key is pending when an intent is. -/
theorem mem_pendingKeys_iff_isSome {o : Outbox} {k : Resource} :
    k ∈ o.pendingKeys ↔ (o.pendingFor? k).isSome := by
  rw [mem_pendingKeys, pendingFor?, List.find?_isSome]
  simp [isPendingFor]

/-- To supersede a pending order is counted. -/
theorem tally_accept (k : Resource) (request : Request) (o : Outbox) :
    (o.accept k request).tally
      = { o.tally with
          superseded := o.tally.superseded + if k ∈ o.pendingKeys then 1 else 0 } := by
  show (o.supersede k request).tally = _
  unfold supersede
  split
  next hnone =>
    have hnot : k ∉ o.pendingKeys := by
      rw [mem_pendingKeys_iff_isSome, hnone]
      exact Bool.false_ne_true
    rw [if_neg hnot]
    rfl
  next old hold =>
    have hin : k ∈ o.pendingKeys := by
      rw [mem_pendingKeys_iff_isSome, hold]
      rfl
    rw [if_pos hin]

/-- **An accepted request is one more order that is superseded or pending.** -/
theorem Orderly.superseded_add_pendingCount_accept {o : Outbox} (h : Orderly o) (k : Resource)
    (request : Request) :
    (o.accept k request).tally.superseded + (o.accept k request).pendingCount
      = o.tally.superseded + o.pendingCount + 1 := by
  -- the keys are different, so at most one of them goes
  have hothers : (o.pendingKeys.filter (· ≠ k)).length + (if k ∈ o.pendingKeys then 1 else 0)
      = o.pendingKeys.length := by
    have hfilter : o.pendingKeys.filter (· ≠ k) = o.pendingKeys.erase k := by
      rw [h.nodup_pendingKeys.erase_eq_filter]
      exact List.filter_congr fun j _ => decide_not
    rw [hfilter]
    by_cases hk : k ∈ o.pendingKeys
    · have hpos := List.length_pos_of_mem hk
      rw [List.length_erase_of_mem hk, if_pos hk]
      omega
    · rw [List.erase_of_not_mem hk, if_neg hk]
      rfl
  rw [tally_accept, ← length_pendingKeys, ← length_pendingKeys, pendingKeys_accept,
    List.length_append, List.length_singleton]
  show o.tally.superseded + _ + _ = _
  omega

/-- Commands with these fates lead from `o` to `p`, as far as the counters know. -/
structure Booked (fates : List Fate) (o p : Outbox) : Prop where
  attempts : p.tally.attempts = o.tally.attempts
  successes : p.tally.successes = o.tally.successes
  failures : p.tally.failures = o.tally.failures
  timeouts : p.tally.timeouts = o.tally.timeouts
  orders : p.tally.superseded + p.pendingCount + (fates.map Fate.dropped).sum
    = o.tally.superseded + o.pendingCount + fates.countP Fate.isAccepted
  namingErrors : p.tally.namingErrors = o.tally.namingErrors + fates.countP Fate.isMisnamed
  placed : p.ledger.length = o.ledger.length + fates.countP Fate.isAccepted

namespace Booked

variable {o p q : Outbox} {first second : List Fate}

theorem nil (o : Outbox) : Booked [] o o := ⟨rfl, rfl, rfl, rfl, rfl, rfl, rfl⟩

theorem append (hop : Booked first o p) (hpq : Booked second p q) :
    Booked (first ++ second) o q where
  attempts := hpq.attempts.trans hop.attempts
  successes := hpq.successes.trans hop.successes
  failures := hpq.failures.trans hop.failures
  timeouts := hpq.timeouts.trans hop.timeouts
  orders := by
    have hfirst := hop.orders
    have hsecond := hpq.orders
    rw [List.map_append, List.sum_append, List.countP_append]
    omega
  namingErrors := by
    rw [hpq.namingErrors, hop.namingErrors, List.countP_append, Nat.add_assoc]
  placed := by rw [hpq.placed, hop.placed, List.countP_append, Nat.add_assoc]

/-- **A command counts what becomes of it.** -/
theorem run (h : Orderly o) (c : Command) : Booked [o.fate c] o (o.run c).1 := by
  rcases run_cases_fate c o with
    ⟨k, request, hfate, _, heq⟩ | ⟨notes, hfate, heq⟩ | ⟨notes, hfate, _, heq⟩
      | ⟨_, hfate, heq⟩ | ⟨hfate, heq⟩
  · rw [hfate, heq]
    refine ⟨?_, ?_, ?_, ?_, h.superseded_add_pendingCount_accept k request, ?_, ?_⟩
    · rw [tally_accept]
    · rw [tally_accept]
    · rw [tally_accept]
    · rw [tally_accept]
    · rw [tally_accept]
      rfl
    · rw [ledger_accept, List.length_append]
      rfl
  · rw [hfate, heq]
    exact ⟨rfl, rfl, rfl, rfl, rfl, rfl, rfl⟩
  · rw [hfate, heq]
    exact ⟨rfl, rfl, rfl, rfl, rfl, rfl, rfl⟩
  · -- what was pending is dropped, all of it
    rw [hfate, heq]
    refine ⟨rfl, rfl, rfl, rfl, ?_, rfl, rfl⟩
    rw [pendingCount_shutDown]
    show o.tally.superseded + 0 + (o.pendingCount + 0) = o.tally.superseded + o.pendingCount + 0
    omega
  · rw [hfate, heq]
    exact ⟨rfl, rfl, rfl, rfl, rfl, rfl, rfl⟩

theorem runAll (h : Orderly o) (cs : List Command) : Booked (fates cs o) o (o.runAll cs).1 := by
  induction cs generalizing o with
  | nil => exact .nil o
  | cons c cs ih => exact (Booked.run h c).append (ih (h.run c))

end Booked

/-! ## §3. What commands overrule. -/

/-- A command keeps an order, and overrules it or leaves it as it is. -/
theorem exists_intent_run (c : Command) {o : Outbox} {i : Intent} (hi : i ∈ o.intents) :
    ∃ j ∈ (o.run c).1.intents, j.order = i.order
      ∧ j.canceled = (i.canceled || (o.fate c).overrules i.order.resource) := by
  rcases run_cases_fate c o with
    ⟨k, request, hfate, _, heq⟩ | ⟨notes, hfate, heq⟩ | ⟨notes, hfate, _, heq⟩
      | ⟨_, hfate, heq⟩ | ⟨hfate, heq⟩
  · rw [hfate, heq]
    refine ⟨cancelFor k i, mem_intents_accept.2 (.inl ⟨i, hi, rfl⟩), order_cancelFor k i, ?_⟩
    have hsame : (Fate.accepted k).overrules i.order.resource = true ↔ i.order.resource = k := by
      show decide (i.order.resource = k) = true ↔ _
      exact decide_eq_true_iff
    rw [Bool.eq_iff_iff, canceled_cancelFor, Bool.or_eq_true, hsame]
  · rw [hfate, heq]
    exact ⟨i, hi, rfl, (Bool.or_false _).symm⟩
  · rw [hfate, heq]
    exact ⟨i, hi, rfl, (Bool.or_false _).symm⟩
  · rw [hfate, heq]
    exact ⟨i.cancel, List.mem_map_of_mem hi, rfl, (Bool.or_true _).symm⟩
  · rw [hfate, heq]
    exact ⟨i, hi, rfl, (Bool.or_false _).symm⟩

/-- **Commands keep every order, and overrule it if one of them does.** -/
theorem exists_intent_runAll (cs : List Command) {o : Outbox} {i : Intent} (hi : i ∈ o.intents) :
    ∃ j ∈ (o.runAll cs).1.intents, j.order = i.order
      ∧ j.canceled = (i.canceled || (fates cs o).any (·.overrules i.order.resource)) := by
  induction cs generalizing o i with
  | nil => exact ⟨i, hi, rfl, (Bool.or_false _).symm⟩
  | cons c cs ih =>
    obtain ⟨j, hj, hji, hjc⟩ := exists_intent_run c hi
    obtain ⟨l, hl, hlj, hlc⟩ := ih hj
    refine ⟨l, hl, hlj.trans hji, ?_⟩
    rw [hlc, hjc, hji, Bool.or_assoc]
    rfl

/-! ## §4. What the end of an attempt counts. -/

namespace Orderly

variable {o : Outbox} (h : Orderly o)
include h

theorem isCanceled_eq {i : Intent} (hi : i ∈ o.intents) :
    o.isCanceled i.order.ticket = i.canceled := by
  rw [Bool.eq_iff_iff]
  constructor
  · exact h.canceled_eq_of_isCanceled hi
  · intro hc
    exact List.any_eq_true.2 ⟨i, hi, by simp [hc]⟩

/-- To forget an order is to have one pending order less, unless it was canceled. -/
theorem pendingCount_forget {i : Intent} (hi : i ∈ o.intents) :
    (o.forget i.order.ticket).pendingCount + (if i.canceled then 0 else 1) = o.pendingCount := by
  unfold pendingCount
  rw [(h.perm_forget hi).countP_eq, List.countP_cons]
  cases i.canceled <;> rfl

end Orderly

theorem pendingCount_postpone (ticket : Nat) (o : Outbox) :
    (o.postpone ticket).pendingCount = o.pendingCount := by
  have hmarks : ∀ p : Outbox, p.pendingCount = (p.intents.map mark).countP fun m => !m.2 := by
    intro p
    rw [List.countP_map]
    rfl
  rw [hmarks, hmarks, marks_postpone]

/-- **What the end of an attempt counts**: the attempt, and how it ended if the order was not
canceled. -/
theorem tally_conclude (i : Intent) (reply : Reply) (o : Outbox) :
    (o.conclude i reply).tally
      = if o.isCanceled i.order.ticket then
          { o.tally with attempts := o.tally.attempts + 1 }
        else
          { o.tally with
            attempts := o.tally.attempts + 1
            successes := o.tally.successes + if reply.acknowledged then 1 else 0
            failures := o.tally.failures + if reply.failed then 1 else 0
            timeouts := o.tally.timeouts + if reply.silent then 1 else 0 } := by
  unfold conclude
  -- the reply is looked at only if the order still counts
  by_cases hc : o.isCanceled i.order.ticket = true
  · rw [if_pos hc, if_pos hc]
    rfl
  · rw [if_neg hc, if_neg hc]
    cases reply with
    | response r =>
      have hkinds : (Reply.response r).acknowledged = r.acknowledged
          ∧ (Reply.response r).failed = !r.acknowledged ∧ (Reply.response r).silent = false :=
        ⟨rfl, rfl, rfl⟩
      rw [hkinds.1, hkinds.2.1, hkinds.2.2]
      cases hr : r.acknowledged with
      | true =>
        simp only [hr]
        rfl
      | false =>
        simp only [hr]
        rfl
    | silence => rfl
    | breakdown => rfl

namespace Orderly

variable {o : Outbox} (h : Orderly o) {i j : Intent} (hj : j ∈ o.intents)
  (hji : j.order = i.order)
include h hj hji

/-- An order that was acknowledged in time is pending no more. -/
theorem pendingCount_conclude (reply : Reply) :
    (o.conclude i reply).pendingCount + (if !j.canceled && reply.acknowledged then 1 else 0)
      = o.pendingCount := by
  have hcanceled : o.isCanceled i.order.ticket = j.canceled := by rw [← hji, h.isCanceled_eq hj]
  have hforget : ∀ tally notes,
      ({ o with tally := tally, notes := notes }.forget i.order.ticket).pendingCount
        + (if j.canceled then 0 else 1) = o.pendingCount := by
    intro tally notes
    rw [← hji]
    exact (h.count tally notes).pendingCount_forget hj
  rcases conclude_cases i reply o with
    ⟨hc, tally, notes, heq⟩ | ⟨hc, hack, tally, notes, heq⟩ | ⟨hc, hack, tally, notes, heq⟩
  · have hcount := hforget tally notes
    rw [heq]
    rw [← hcanceled, hc] at hcount ⊢
    exact hcount
  · have hcount := hforget tally notes
    rw [heq]
    rw [← hcanceled, hc] at hcount
    rw [← hcanceled, hc, hack]
    exact hcount
  · rw [heq, pendingCount_postpone, hack, Bool.and_false]
    rfl

/-- **The end of an attempt keeps the balance**: what it adds to one counter it takes from
another. -/
theorem balance_conclude (reply : Reply) :
    let p := o.conclude i reply
    p.tally.attempts = o.tally.attempts + 1
      ∧ p.tally.successes + p.tally.failures + p.tally.timeouts + (if j.canceled then 1 else 0)
        = o.tally.successes + o.tally.failures + o.tally.timeouts + 1
      ∧ p.tally.successes + p.pendingCount = o.tally.successes + o.pendingCount
      ∧ p.tally.superseded = o.tally.superseded
      ∧ p.tally.namingErrors = o.tally.namingErrors := by
  intro p
  have hpending : p.pendingCount + _ = _ := h.pendingCount_conclude hj hji reply
  have htally : p.tally = _ := Outbox.tally_conclude i reply o
  have hkinds := reply.kinds
  rw [← hji, h.isCanceled_eq hj] at htally
  cases hc : j.canceled with
  | true =>
    rw [hc] at hpending htally
    rw [htally]
    exact ⟨rfl, rfl, congrArg (o.tally.successes + ·) hpending, rfl, rfl⟩
  | false =>
    rw [hc] at hpending htally
    rw [Bool.not_false, Bool.true_and] at hpending
    rw [htally]
    refine ⟨rfl, ?_, ?_, rfl, rfl⟩
    · show o.tally.successes + _ + (o.tally.failures + _) + (o.tally.timeouts + _) + 0 = _
      omega
    · show o.tally.successes + (if reply.acknowledged then 1 else 0) + p.pendingCount = _
      omega

end Orderly

end Outbox

end RoutingSessions
