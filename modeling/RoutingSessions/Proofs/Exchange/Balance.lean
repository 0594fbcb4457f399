/-
  RoutingSessions.Proofs.Exchange.Balance — the counters balance.

  The chronicle of a run says what happened in it, in order: which commands were given
  and what became of them, which orders were tried, how the attempts ended, and what
  became of the commands that were given meanwhile.  It follows the run, but it looks
  at no counter.  The counters balance if they say the same as the chronicle.

  An attempt counts at its end.  Between its start and its end the commands that were
  given meanwhile are counted, and one of them may overrule the order that is tried.
  Then it is not pending any more when the attempt ends, and the attempt counts neither
  as a success nor as a failure, however it ended.  The counters of attempts that
  overlap are in `RoutingSessions.Proofs.Traffic.Balance`.

  Main statements:
    * `Balanced.process` — an attempt and what is asked meanwhile keep the balance.
    * `Balanced.run` — a step keeps the balance.
    * `counters_balance` — the balance of every run.
-/
import RoutingSessions.Proofs.Exchange.Moves
import RoutingSessions.Proofs.Outbox.Fates

namespace RoutingSessions

namespace Exchange

/-! ## §1. Chronicles. -/

/-- Something that happens in a run and is counted. -/
inductive Event where
  /-- A command is given while no attempt is under way. -/
  | given (fate : Outbox.Fate)
  /-- An order is tried, and meanwhile commands are given. -/
  | tried (order : Order) (during : List Outbox.Fate) (reply : Reply)
deriving DecidableEq

namespace Event

/-- What becomes of the commands that are given. -/
def fates : Event → List Outbox.Fate
  | given fate => [fate]
  | tried _ during _ => during

/-- The attempt that is made, if one is. -/
def attempt? : Event → Option (Order × Reply)
  | given _ => none
  | tried order _ reply => some (order, reply)

/-- An attempt is made whose order is superseded, or met by a shutdown, while it is under way. -/
def overtaken : Event → Bool
  | given _ => false
  | tried order during _ => during.any (·.overrules order.resource)

end Event

/-- What happens when something is done about an intent. -/
def deed (i : Intent) (x : Exchange) : List Event :=
  if i.canceled then []
  else [.tried i.order (Outbox.fates (x.outcome i).commands x.outbox) (x.outcome i).reply]

/-- What happens in a drain. -/
def drainEvents : Nat → Exchange → List Event
  | 0, _ => []
  | fuel + 1, x =>
    match x.outbox.next? with
    | none => []
    | some i => x.deed i ++ drainEvents fuel (x.process i)

/-- What happens until there is nothing left to do. -/
def drained (x : Exchange) : List Event := drainEvents x.work x

/-- What happens in a millisecond. -/
def tickEvents (x : Exchange) : List Event :=
  drained { x with outbox := { x.outbox with clock := x.outbox.clock + 1 } }

/-- What happens in so many milliseconds. -/
def advanceEvents : Nat → Exchange → List Event
  | 0, _ => []
  | n + 1, x => x.tickEvents ++ advanceEvents n x.tick

/-- What happens until nothing is pending, in so many milliseconds at most. -/
def settleEvents : Nat → Exchange → List Event
  | 0, _ => []
  | n + 1, x => if x.outbox.pendingCount = 0 then [] else x.tickEvents ++ settleEvents n x.tick

/-- What happens in a step. -/
def stepEvents (step : Step) (x : Exchange) : List Event :=
  match step with
  | .ask c => .given (x.outbox.fate c) :: drained (x.ask c).1
  | .batch cs => (Outbox.fates cs x.outbox).map .given ++ drained (x.askAll cs).1
  | .advance ms => advanceEvents ms x
  | .settle ms => settleEvents ms x
  | .script _ => []
  | .closed => []

/-- What happens in a run. -/
def chronicle : List Step → Exchange → List Event
  | [], _ => []
  | step :: steps, x => stepEvents step x ++ chronicle steps (x.run step).1

/-! ## §2. The balance. -/

/-- The counters say the same as the chronicle. -/
structure Balanced (events : List Event) (x : Exchange) : Prop where
  orderly : x.outbox.Orderly
  sent : x.sent.map (fun s => (s.order, s.reply)) = events.filterMap Event.attempt?
  attempts : x.outbox.tally.attempts = x.sent.length
  outcomes : x.outbox.tally.attempts = x.outbox.tally.successes + x.outbox.tally.failures
    + x.outbox.tally.timeouts + events.countP Event.overtaken
  orders : (events.flatMap Event.fates).countP Outbox.Fate.isAccepted = x.outbox.tally.successes
    + x.outbox.tally.superseded + x.outbox.pendingCount
    + ((events.flatMap Event.fates).map Outbox.Fate.dropped).sum
  namingErrors : x.outbox.tally.namingErrors
    = (events.flatMap Event.fates).countP Outbox.Fate.isMisnamed
  placed : x.outbox.ledger.length = (events.flatMap Event.fates).countP Outbox.Fate.isAccepted

theorem balanced_start (settings : CommandSettings) (builder : CommandBuilder) (script : Script) :
    Balanced [] (start (.new settings builder) script) where
  orderly := Outbox.orderly_new settings builder
  sent := rfl
  attempts := rfl
  outcomes := rfl
  orders := rfl
  namingErrors := rfl
  placed := rfl

namespace Balanced

variable {events : List Event} {x : Exchange}

theorem append_nil (h : Balanced events x) : Balanced (events ++ []) x := by
  rw [List.append_nil]
  exact h

theorem ask (h : Balanced events x) (c : Outbox.Command) :
    Balanced (events ++ [.given (x.outbox.fate c)]) (x.ask c).1 := by
  have hbooked : Outbox.Booked [x.outbox.fate c] x.outbox (x.ask c).1.outbox :=
    Outbox.Booked.run h.orderly c
  have hfates : (events ++ [Event.given (x.outbox.fate c)]).flatMap Event.fates
      = events.flatMap Event.fates ++ [x.outbox.fate c] := List.flatMap_append
  refine ⟨h.orderly.run c, ?sent, ?attempts, ?outcomes, ?orders, ?namingErrors, ?placed⟩
  case sent =>
    rw [List.filterMap_append]
    exact h.sent.trans (List.append_nil _).symm
  case attempts => exact hbooked.attempts.trans h.attempts
  case outcomes =>
    rw [hbooked.attempts, hbooked.successes, hbooked.failures, hbooked.timeouts,
      List.countP_append]
    exact h.outcomes
  case orders =>
    have hbefore := h.orders
    have hgiven := hbooked.orders
    rw [hfates, List.countP_append, List.map_append, List.sum_append, hbooked.successes]
    omega
  case namingErrors =>
    rw [hfates, List.countP_append, hbooked.namingErrors, h.namingErrors]
  case placed => rw [hfates, List.countP_append, hbooked.placed, h.placed]

theorem askAll (h : Balanced events x) (cs : List Outbox.Command) :
    Balanced (events ++ (Outbox.fates cs x.outbox).map .given) (x.askAll cs).1 := by
  induction cs generalizing events x with
  | nil => exact h.append_nil
  | cons c cs ih =>
    have hrest := ih (h.ask c)
    rw [List.append_assoc] at hrest
    exact hrest

/-- **An attempt keeps the balance**, whatever is asked meanwhile and however it ends. -/
theorem attempt (h : Balanced events x) {i : Intent} (hi : x.outbox.next? = some i)
    (hc : i.canceled = false) : Balanced (events ++ x.deed i) (x.attempt i) := by
  let during := Outbox.fates (x.outcome i).commands x.outbox
  have hdeed : x.deed i = [.tried i.order during (x.outcome i).reply] :=
    if_neg (by rw [hc]; exact Bool.false_ne_true)
  have hfates : (events ++ x.deed i).flatMap Event.fates
      = events.flatMap Event.fates ++ during := by
    rw [hdeed, List.flatMap_append]
    exact congrArg (_ ++ ·) (List.append_nil during)
  -- first what is asked meanwhile is counted, then the end of the attempt
  have hbooked : Outbox.Booked during x.outbox (x.asked i) :=
    Outbox.Booked.runAll h.orderly (x.outcome i).commands
  have horderly : (x.asked i).Orderly := h.orderly.runAll (x.outcome i).commands
  obtain ⟨j, hj, hji, hjc⟩ :=
    Outbox.exists_intent_runAll (x.outcome i).commands (mem_of_next? hi)
  have hovertaken : j.canceled = during.any (·.overrules i.order.resource) := by
    rw [hjc, hc, Bool.false_or]
  obtain ⟨hattempts, houtcomes, hpending, hsuperseded, hnaming⟩ :=
    horderly.balance_conclude hj hji (x.outcome i).reply
  rw [← outbox_attempt] at hattempts houtcomes hpending hsuperseded hnaming
  refine ⟨?orderly, ?sent, ?attempts, ?outcomes, ?orders, ?namingErrors, ?placed⟩
  case orderly => exact horderly.conclude i (x.outcome i).reply
  case sent =>
    rw [sent_attempt_record, List.map_append, h.sent, List.filterMap_append, hdeed]
    rfl
  case attempts =>
    rw [hattempts, hbooked.attempts, h.attempts, sent_attempt_record, List.length_append]
    rfl
  case outcomes =>
    have hcount : (events ++ x.deed i).countP Event.overtaken
        = events.countP Event.overtaken + if j.canceled then 1 else 0 := by
      rw [hdeed, List.countP_append, List.countP_singleton, hovertaken]
      rfl
    have hbefore := h.outcomes
    rw [hbooked.successes, hbooked.failures, hbooked.timeouts] at houtcomes
    rw [hcount, hattempts, hbooked.attempts]
    omega
  case orders =>
    have hbefore := h.orders
    have hgiven := hbooked.orders
    rw [hbooked.successes] at hpending
    rw [hfates, List.countP_append, List.map_append, List.sum_append, hsuperseded]
    omega
  case namingErrors =>
    rw [hfates, List.countP_append, hnaming, hbooked.namingErrors, h.namingErrors]
  case placed =>
    rw [hfates, List.countP_append, outbox_attempt, Outbox.ledger_conclude, hbooked.placed,
      h.placed]

/-- What is done about an intent keeps the balance; to forget a canceled order is no event. -/
theorem process (h : Balanced events x) {i : Intent} (hi : x.outbox.next? = some i) :
    Balanced (events ++ x.deed i) (x.process i) := by
  unfold Exchange.process
  split
  next hc =>
    have hdeed : x.deed i = [] := if_pos hc
    have hpending := h.orderly.pendingCount_forget (mem_of_next? hi)
    rw [if_pos hc, Nat.add_zero] at hpending
    have horders := h.orders
    rw [← hpending] at horders
    rw [hdeed]
    exact Balanced.append_nil { h with orderly := h.orderly.forget _, orders := horders }
  next hc => exact h.attempt hi (Bool.eq_false_iff.2 hc)

theorem drainWith (h : Balanced events x) (fuel : Nat) :
    Balanced (events ++ drainEvents fuel x) (drainWith fuel x) := by
  induction fuel generalizing events x with
  | zero => exact h.append_nil
  | succ fuel ih =>
    cases hi : x.outbox.next? with
    | none =>
      rw [drainWith_of_next? _ hi, drainEvents, hi]
      exact h.append_nil
    | some i =>
      rw [drainWith_of_next?_eq_some fuel hi, drainEvents, hi]
      show Balanced (events ++ (x.deed i ++ _)) _
      rw [← List.append_assoc]
      exact ih (h.process hi)

theorem drain (h : Balanced events x) : Balanced (events ++ x.drained) x.drain :=
  h.drainWith x.work

theorem tick (h : Balanced events x) : Balanced (events ++ x.tickEvents) x.tick := by
  have hpass : Balanced events
      { x with outbox := { x.outbox with clock := x.outbox.clock + 1 } } :=
    { h with orderly := h.orderly.of_sublist rfl rfl (.refl _) }
  exact hpass.drain

theorem advance (h : Balanced events x) (ms : Nat) :
    Balanced (events ++ advanceEvents ms x) (x.advance ms) := by
  induction ms generalizing events x with
  | zero => exact h.append_nil
  | succ ms ih =>
    show Balanced (events ++ (x.tickEvents ++ advanceEvents ms x.tick)) (x.tick.advance ms)
    rw [← List.append_assoc]
    exact ih h.tick

theorem settle (h : Balanced events x) (ms : Nat) :
    Balanced (events ++ settleEvents ms x) (settle ms x).1 := by
  induction ms generalizing events x with
  | zero => exact h.append_nil
  | succ ms ih =>
    unfold Exchange.settle settleEvents
    split
    next => exact h.append_nil
    next =>
      rw [← List.append_assoc]
      exact ih h.tick

/-- **A step keeps the balance.** -/
theorem run (h : Balanced events x) (step : Step) :
    Balanced (events ++ stepEvents step x) (x.run step).1 := by
  cases step with
  | ask c =>
    have hasked := (h.ask c).drain
    rw [List.append_assoc] at hasked
    exact hasked
  | batch cs =>
    have hasked := (h.askAll cs).drain
    rw [List.append_assoc] at hasked
    exact hasked
  | advance ms => exact h.advance ms
  | settle ms => exact h.settle ms
  | script more => exact Balanced.append_nil { h with }
  | closed => exact h.append_nil

theorem runAll (h : Balanced events x) (steps : List Step) :
    Balanced (events ++ chronicle steps x) (runAll steps x).1 := by
  induction steps generalizing events x with
  | nil => exact h.append_nil
  | cons step steps ih =>
    show Balanced (events ++ (stepEvents step x ++ chronicle steps _)) _
    rw [← List.append_assoc]
    exact ih (h.run step)

end Balanced

/-! ## §3. The counters of a run. -/

/-- **The counters balance.**  After every run, the attempts counted are the requests that were
sent; each counts as a success, as a failure or as one without an answer, unless its order was
superseded or met by a shutdown while it was under way.  The commands that were accepted are the
orders that were placed, and each of them has succeeded, was superseded, is pending, or was
dropped by a shutdown.  The naming errors counted are the commands for which there was no
request. -/
theorem counters_balance (settings : CommandSettings) (builder : CommandBuilder) (script : Script)
    (steps : List Step) :
    let first := start (.new settings builder) script
    let x := (runAll steps first).1
    let events := chronicle steps first
    let fates := events.flatMap Event.fates
    let tally := x.outbox.tally
    (tally.attempts = x.sent.length
        ∧ x.sent.map (fun s => (s.order, s.reply)) = events.filterMap Event.attempt?)
      ∧ tally.attempts = tally.successes + tally.failures + tally.timeouts
        + events.countP Event.overtaken
      ∧ (fates.countP Outbox.Fate.isAccepted = tally.successes + tally.superseded
          + x.outbox.pendingCount + (fates.map Outbox.Fate.dropped).sum
        ∧ x.outbox.ledger.length = fates.countP Outbox.Fate.isAccepted)
      ∧ tally.namingErrors = fates.countP Outbox.Fate.isMisnamed := by
  intro first x events fates tally
  have hfirst : Balanced [] first := balanced_start settings builder script
  have hx : Balanced events x := hfirst.runAll steps
  exact ⟨⟨hx.attempts, hx.sent⟩, hx.outcomes, ⟨hx.orders, hx.placed⟩, hx.namingErrors⟩

-- the creation ends well after its deletion was accepted, so it counts as no success
example :
    let builder : CommandBuilder :=
      Namer.builder ⟨"r", { domainRoute := "d", sessionName := "s", sessionConfig := "c" }⟩
    let s : Session := ⟨"Square", "A"⟩
    let script : Script := [("r::d::s", ⟨some [.submit (.deleteSession s)], .response .ok⟩)]
    let steps : List Step := [.ask (.submit (.createSession s)), .ask .shutDown]
    let first := start (.new {} builder) script
    (runAll steps first).1.outbox.tally = { attempts := 2, successes := 1, superseded := 1 }
      ∧ (chronicle steps first).countP Event.overtaken = 1 := by
  decide +kernel

end Exchange

end RoutingSessions
