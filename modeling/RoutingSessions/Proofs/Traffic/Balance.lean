/-
  RoutingSessions.Proofs.Traffic.Balance — the counters of overlapping attempts.

  However the attempts for different resources overlap, whatever commands come in while
  they are under way, every attempt is counted at its end, once.  What it is counted as
  depends on how it ended, and on whether its order still counted then.  An order does
  not count if there is a newer one for its resource, or if the outbox is shut down: this
  is read off the ledger and not off the marks that the outbox keeps on its intents, so
  it makes sense to ask whether the two agree.  They do as long as the attempt is under
  way, because then its order is held on to and was not acknowledged.

  Main statements:
    * `Balanced.move` — every event keeps the balance.
    * `counters_of_path` — every counter, along every path.
-/
import RoutingSessions.Proofs.Traffic.Sound

namespace RoutingSessions

/-- How the attempt ended, unless it is under way. -/
def Attempt.ended? (a : Attempt) : Option (Order × Reply) := a.reply.map (a.order, ·)

namespace Traffic

/-! ## §1. What is told of a path. -/

/-- What becomes of the command that is given, if one is. -/
def fates (e : Event) (t : Traffic) : List Outbox.Fate :=
  e.command?.toList.map (Outbox.fate · t.outbox)

/-- The end of an attempt. -/
structure Ending where
  order : Order
  reply : Reply
  /-- The order did not count any more. -/
  overruled : Bool
deriving DecidableEq

/-- The attempt that ends, if one does. -/
def endings (e : Event) (t : Traffic) : List Ending :=
  match e with
  | .ask _ => []
  | .tick => []
  | .forget _ => []
  | .start _ => []
  | .finish i reply => [⟨i.order, reply, decide (t.outbox.Overruled i.order)⟩]

namespace Ending

/-- The attempt ended in this way, and its order still counted. -/
def counts (kind : Reply → Bool) (e : Ending) : Bool := !e.overruled && kind e.reply

/-- An attempt whose order still counts ends in one of three ways. -/
theorem kinds (e : Ending) :
    (if e.counts Reply.acknowledged then 1 else 0) + (if e.counts Reply.failed then 1 else 0)
      + (if e.counts Reply.silent then 1 else 0) + (if e.overruled then 1 else 0) = 1 := by
  unfold counts
  cases e.overruled
  · exact e.reply.kinds
  · rfl

theorem countP_concat (p : Ending → Bool) (ends : List Ending) (e : Ending) :
    (ends ++ [e]).countP p = ends.countP p + if p e then 1 else 0 := by
  rw [List.countP_append, List.countP_singleton]

/-- So all attempts that ended are of one of four kinds. -/
theorem countP_kinds (ends : List Ending) :
    ends.countP (·.counts Reply.acknowledged) + ends.countP (·.counts Reply.failed)
      + ends.countP (·.counts Reply.silent) + ends.countP (·.overruled) = ends.length := by
  induction ends with
  | nil => rfl
  | cons e ends ih =>
    have hkinds := e.kinds
    rw [List.countP_cons, List.countP_cons, List.countP_cons, List.countP_cons, List.length_cons]
    omega

end Ending

/-! ## §2. The balance. -/

/-- The counters say the same as what was told of the commands and of the attempts that ended. -/
structure Balanced (given : List Outbox.Fate) (ends : List Ending) (t : Traffic) : Prop where
  sound : Sound t
  ended : (ends.map fun e => (e.order, e.reply)).Perm (t.attempts.filterMap Attempt.ended?)
  attempts : t.outbox.tally.attempts = ends.length
  successes : t.outbox.tally.successes = ends.countP (·.counts Reply.acknowledged)
  failures : t.outbox.tally.failures = ends.countP (·.counts Reply.failed)
  timeouts : t.outbox.tally.timeouts = ends.countP (·.counts Reply.silent)
  orders : given.countP Outbox.Fate.isAccepted = t.outbox.tally.successes
    + t.outbox.tally.superseded + t.outbox.pendingCount + (given.map Outbox.Fate.dropped).sum
  namingErrors : t.outbox.tally.namingErrors = given.countP Outbox.Fate.isMisnamed
  placed : t.outbox.ledger.length = given.countP Outbox.Fate.isAccepted

theorem balanced_new (settings : CommandSettings) (builder : CommandBuilder) :
    Balanced [] [] (new settings builder) where
  sound := sound_new settings builder
  ended := .nil
  attempts := rfl
  successes := rfl
  failures := rfl
  timeouts := rfl
  orders := rfl
  namingErrors := rfl
  placed := rfl

namespace Balanced

variable {given : List Outbox.Fate} {ends : List Ending} {t u : Traffic}

/-- A command counts what becomes of it. -/
theorem ask (h : Balanced given ends t) (c : Outbox.Command) :
    Balanced (given ++ [t.outbox.fate c]) ends (t.ask c) := by
  have hbooked : Outbox.Booked [t.outbox.fate c] t.outbox (t.ask c).outbox :=
    Outbox.Booked.run h.sound.accounts.toOrderly c
  refine ⟨h.sound.ask c, h.ended, ?attempts, ?successes, ?failures, ?timeouts, ?orders,
    ?namingErrors, ?placed⟩
  case attempts => exact hbooked.attempts.trans h.attempts
  case successes => exact hbooked.successes.trans h.successes
  case failures => exact hbooked.failures.trans h.failures
  case timeouts => exact hbooked.timeouts.trans h.timeouts
  case orders =>
    have hbefore := h.orders
    have hgiven := hbooked.orders
    rw [List.countP_append, List.map_append, List.sum_append, hbooked.successes]
    omega
  case namingErrors => rw [List.countP_append, hbooked.namingErrors, h.namingErrors]
  case placed => rw [List.countP_append, hbooked.placed, h.placed]

/-- To forget an order that was canceled counts for nothing. -/
theorem forget (h : Balanced given ends t) {i : Intent} (hi : i ∈ t.outbox.intents)
    (hc : i.canceled = true) (hidle : ¬t.UnderWay i.order) :
    Balanced given ends (t.forget i) := by
  have hpending := h.sound.accounts.toOrderly.pendingCount_forget hi
  rw [if_pos hc, Nat.add_zero] at hpending
  have horders := h.orders
  rw [← hpending] at horders
  exact { h with sound := h.sound.forget hi hc hidle, orders := horders }

/-- An attempt that starts has not ended. -/
theorem start (h : Balanced given ends t) {i : Intent} (hi : t.MayStart i) :
    Balanced given ends (t.start i) := by
  refine { h with sound := h.sound.start hi, ended := ?_ }
  show List.Perm _ ((t.attempts ++ [_]).filterMap Attempt.ended?)
  rw [List.filterMap_append]
  exact h.ended.trans (.of_eq (List.append_nil _).symm)

/-- **An attempt is counted at its end**, as what it was if its order still counts. -/
theorem finish (h : Balanced given ends t) {i : Intent} (hi : t.UnderWay i.order)
    (reply : Reply) : Balanced given
      (ends ++ [⟨i.order, reply, decide (t.outbox.Overruled i.order)⟩]) (t.finish i reply) := by
  -- the order is held on to, and its mark says the same as the ledger
  obtain ⟨a, ha, hai, hnone⟩ := hi
  obtain ⟨j, hj, hja⟩ := h.sound.held a ha hnone
  have hji : j.order = i.order := hja.trans hai
  have hover : t.outbox.isCanceled i.order.ticket = decide (t.outbox.Overruled i.order) := by
    rw [← hji, h.sound.accounts.toOrderly.isCanceled_eq hj, Bool.eq_iff_iff, decide_eq_true_iff]
    refine h.sound.accounts.canceled_iff_overruled hj ?_
    exact h.sound.not_acknowledged_of_underWay ⟨a, ha, hja.symm, hnone⟩
  have hi : t.UnderWay i.order := ⟨a, ha, hai, hnone⟩
  have htally := Outbox.tally_conclude i reply t.outbox
  rw [hover] at htally
  obtain ⟨hattempts, _, hpending, hsuperseded, hnaming⟩ :=
    h.sound.accounts.toOrderly.balance_conclude hj hji reply
  refine ⟨h.sound.finish hi reply, ?ended, ?attempts, ?successes, ?failures, ?timeouts, ?orders,
    ?namingErrors, ?placed⟩
  case ended =>
    obtain ⟨before, b, after, hsplit, hb, hbnone, hanswer⟩ := h.sound.exists_underWay hi
    have hended := h.ended
    rw [hsplit, List.filterMap_append,
      List.filterMap_cons_none (by rw [Attempt.ended?, hbnone]; rfl)] at hended
    show List.Perm _ ((t.attempts.map (answer i.order reply)).filterMap Attempt.ended?)
    rw [hanswer reply, List.map_append, List.filterMap_append,
      List.filterMap_cons_some (b := (i.order, reply)) (by rw [Attempt.ended?, hb]; rfl)]
    exact (List.perm_append_comm.trans (hended.cons _)).trans List.perm_middle.symm
  case attempts =>
    rw [List.length_append]
    exact hattempts.trans (congrArg (· + 1) h.attempts)
  case successes =>
    show (t.outbox.conclude i reply).tally.successes = _
    rw [htally, Ending.countP_concat]
    cases decide (t.outbox.Overruled i.order)
    · exact congrArg (· + _) h.successes
    · exact h.successes
  case failures =>
    show (t.outbox.conclude i reply).tally.failures = _
    rw [htally, Ending.countP_concat]
    cases decide (t.outbox.Overruled i.order)
    · exact congrArg (· + _) h.failures
    · exact h.failures
  case timeouts =>
    show (t.outbox.conclude i reply).tally.timeouts = _
    rw [htally, Ending.countP_concat]
    cases decide (t.outbox.Overruled i.order)
    · exact congrArg (· + _) h.timeouts
    · exact h.timeouts
  case orders =>
    have hbefore := h.orders
    show _ = (t.outbox.conclude i reply).tally.successes
      + (t.outbox.conclude i reply).tally.superseded + (t.outbox.conclude i reply).pendingCount + _
    omega
  case namingErrors => exact hnaming.trans h.namingErrors
  case placed =>
    show (t.outbox.conclude i reply).ledger.length = _
    rw [Outbox.ledger_conclude, h.placed]

/-- **Every event keeps the balance.** -/
theorem move (h : Balanced given ends t) {e : Event} (hmove : Move e t u) :
    Balanced (given ++ fates e t) (ends ++ endings e t) u := by
  cases hmove with
  | ask c =>
    show Balanced (given ++ [t.outbox.fate c]) (ends ++ []) _
    rw [List.append_nil]
    exact h.ask c
  | tick =>
    show Balanced (given ++ []) (ends ++ []) _
    rw [List.append_nil, List.append_nil]
    exact { h with sound := h.sound.move .tick }
  | forget hi hc hidle =>
    show Balanced (given ++ []) (ends ++ []) _
    rw [List.append_nil, List.append_nil]
    exact h.forget hi hc hidle
  | start hi =>
    show Balanced (given ++ []) (ends ++ []) _
    rw [List.append_nil, List.append_nil]
    exact h.start hi
  | finish reply hi =>
    show Balanced (given ++ []) (ends ++ [_]) _
    rw [List.append_nil]
    exact h.finish hi reply

/-- So does every path. -/
theorem path {ok : Event → Traffic → Prop} {es : List Event} (hpath : Path ok es t u)
    (h : Balanced given ends t) :
    Balanced (given ++ along fates es t) (ends ++ along endings es t) u := by
  induction hpath generalizing given ends with
  | nil =>
    show Balanced (given ++ []) (ends ++ []) _
    rw [List.append_nil, List.append_nil]
    exact h
  | @cons e es t u v _ hmove _ ih =>
    show Balanced (given ++ (fates e t ++ along fates es (t.after e)))
      (ends ++ (endings e t ++ along endings es (t.after e))) v
    rw [← hmove.eq_after, ← List.append_assoc, ← List.append_assoc]
    exact ih (h.move hmove)

end Balanced

/-! ## §3. The counters. -/

/-- What has ended and what is under way is all that has started. -/
theorem length_ended_add_underWayCount (t : Traffic) :
    (t.attempts.filterMap Attempt.ended?).length + t.underWayCount = t.attempts.length := by
  unfold underWayCount
  induction t.attempts with
  | nil => rfl
  | cons a attempts ih =>
    rw [List.countP_cons, List.length_cons, ← ih]
    cases ha : a.reply with
    | none =>
      rw [List.filterMap_cons_none (by rw [Attempt.ended?, ha]; rfl)]
      rfl
    | some reply =>
      rw [List.filterMap_cons_some (b := (a.order, reply)) (by rw [Attempt.ended?, ha]; rfl)]
      exact Nat.add_right_comm _ _ _

/-- **Every counter, along every path.**  The attempts counted are those that have ended, and with
those under way they are all that were started.  Each counts as a success, as a failure or as one
without an answer, according to how it ended; unless there was a newer order for its resource by
then, or the outbox was shut down.  The commands that were accepted are the orders in the ledger,
and each of them has succeeded, was superseded, is pending, or was dropped by a shutdown.  The
naming errors counted are the commands for which there was no request. -/
theorem counters_of_path (settings : CommandSettings) (builder : CommandBuilder)
    {ok : Event → Traffic → Prop} {es : List Event} {t : Traffic}
    (hpath : Path ok es (new settings builder) t) :
    let given := along fates es (new settings builder)
    let ends := along endings es (new settings builder)
    let tally := t.outbox.tally
    (tally.attempts = ends.length ∧ tally.attempts + t.underWayCount = t.attempts.length
        ∧ (ends.map fun e => (e.order, e.reply)).Perm (t.attempts.filterMap Attempt.ended?))
      ∧ (tally.successes = ends.countP (·.counts Reply.acknowledged)
        ∧ tally.failures = ends.countP (·.counts Reply.failed)
        ∧ tally.timeouts = ends.countP (·.counts Reply.silent)
        ∧ tally.attempts = tally.successes + tally.failures + tally.timeouts
          + ends.countP (·.overruled))
      ∧ (given.countP Outbox.Fate.isAccepted = tally.successes + tally.superseded
          + t.outbox.pendingCount + (given.map Outbox.Fate.dropped).sum
        ∧ t.outbox.ledger.length = given.countP Outbox.Fate.isAccepted)
      ∧ tally.namingErrors = given.countP Outbox.Fate.isMisnamed := by
  intro given ends tally
  have h : Balanced given ends t := (balanced_new settings builder).path hpath
  have hlength := h.ended.length_eq
  have hall := length_ended_add_underWayCount t
  have hkinds := Ending.countP_kinds ends
  rw [List.length_map] at hlength
  refine ⟨⟨h.attempts, ?_, h.ended⟩, ⟨h.successes, h.failures, h.timeouts, ?_⟩,
    ⟨h.orders, h.placed⟩, h.namingErrors⟩
  · show t.outbox.tally.attempts + _ = _
    rw [h.attempts, hlength, hall]
  · show t.outbox.tally.attempts = t.outbox.tally.successes + t.outbox.tally.failures
      + t.outbox.tally.timeouts + _
    rw [h.attempts, h.successes, h.failures, h.timeouts, hkinds]

end Traffic

end RoutingSessions
