/-
  RoutingSessions.Outbox — commands on their way to the routing engine.

  An accepted command becomes an order, and an order is pending until the engine
  acknowledges it.  There is one pending order for a resource: a newer command cancels
  the older one.  Attempts that fail are repeated after a delay.  A canceled order is
  not tried again; if an attempt is under way when it is canceled, its outcome does not
  count any more.  After a shutdown nothing is pending, and no command is accepted.

  The outbox decides; who carries out the attempts, and when, is not its business
  (`RoutingSessions.Traffic`, `RoutingSessions.Exchange`).

  What an outbox does, it does at once.  A command is checked and inserted in one step:
  whether the outbox is shut down is asked when the order is placed, not before.  The end
  of an attempt is one step as well: whether the order was canceled is asked when the
  outcome is counted and the order forgotten.  Commands of several threads come one
  after the other, in some order.

  Main statements:
    * `pendingCount_shutDown` — a shutdown leaves nothing pending.
    * `submit_of_naming_error`, `submit_of_isShutDown` — a command that is refused
      touches nothing but the count of naming errors.
    * `length_intents_run_le` — a command adds one intent at most.
-/
import RoutingSessions.Journal
import RoutingSessions.Settings

namespace RoutingSessions

/-! ## Orders -/

/-- A command that was accepted. -/
structure Order where
  /-- The number of the order, counted from zero. -/
  ticket : Nat
  resource : Resource
  request : Request
  /-- When the command was accepted. -/
  placed : Nat
deriving DecidableEq, Inhabited

/-- The state of an order that is not done with. -/
structure Intent where
  order : Order
  /-- How many attempts have ended. -/
  attempts : Nat
  /-- When the next attempt may start. -/
  due : Nat
  /-- The order does not count any more. -/
  canceled : Bool
deriving DecidableEq, Inhabited

/-- The intent for an order that does not count any more. -/
def Intent.cancel (i : Intent) : Intent := { i with canceled := true }

/-- What is counted. -/
structure Tally where
  /-- Requests sent. -/
  attempts : Nat := 0
  /-- Requests acknowledged. -/
  successes : Nat := 0
  /-- Requests refused, and attempts that broke down. -/
  failures : Nat := 0
  /-- Requests without an answer. -/
  timeouts : Nat := 0
  /-- Orders canceled by a newer one. -/
  superseded : Nat := 0
  /-- Commands for which there is no request. -/
  namingErrors : Nat := 0
deriving DecidableEq, Inhabited

/-- How an attempt ends. -/
inductive Reply where
  | response (r : Response)
  /-- No answer came in time. -/
  | silence
  /-- The attempt itself broke down. -/
  | breakdown
deriving DecidableEq, Inhabited

/-- The reply says that the engine did as it was told. -/
def Reply.acknowledged : Reply → Bool
  | .response r => r.acknowledged
  | .silence => false
  | .breakdown => false

/-- The orders of one commander. -/
structure Outbox where
  settings : CommandSettings
  builder : CommandBuilder
  /-- The time, in milliseconds. -/
  clock : Nat
  /-- The orders ever accepted, oldest first. -/
  ledger : List Order
  /-- The orders not done with, oldest first. -/
  intents : List Intent
  isShutDown : Bool
  tally : Tally
  /-- What was noted, oldest first. -/
  notes : List Note
deriving Inhabited

namespace Outbox

/-- An outbox of which nothing has been asked. -/
def new (settings : CommandSettings) (builder : CommandBuilder) : Outbox :=
  ⟨settings, builder, 0, [], [], false, {}, []⟩

/-- A new outbox, if there is something to run it on. -/
def start (hasRuntime : Bool) (settings : CommandSettings) (builder : CommandBuilder) :
    Except CommandError Outbox :=
  if hasRuntime then .ok (new settings builder) else .error .noRuntime

/-! ## Pending orders -/

/-- The intent is pending for the resource. -/
def isPendingFor (k : Resource) (i : Intent) : Bool := !i.canceled && i.order.resource = k

/-- The pending intent for a resource. -/
def pendingFor? (o : Outbox) (k : Resource) : Option Intent := o.intents.find? (isPendingFor k)

/-- How many orders are pending. -/
def pendingCount (o : Outbox) : Nat := o.intents.countP fun i => !i.canceled

/-! ## Notes -/

/-- Adds a note. -/
def note (n : Note) (o : Outbox) : Outbox := { o with notes := o.notes ++ [n] }

/-! ## Commands -/

/-- Cancels the pending order for a resource, if there is one, in favour of a request. -/
def supersede (k : Resource) (newer : Request) (o : Outbox) : Outbox :=
  match o.pendingFor? k with
  | none => o
  | some old =>
    { o with
      intents := o.intents.map fun i => if i.order.resource = k then i.cancel else i
      tally := { o.tally with superseded := o.tally.superseded + 1 }
      notes := o.notes ++ [.superseded k old.order.request.action newer.action] }

/-- Places an order that is due at once. -/
def place (k : Resource) (request : Request) (o : Outbox) : Outbox :=
  let order : Order := ⟨o.ledger.length, k, request, o.clock⟩
  { o with
    ledger := o.ledger ++ [order]
    intents := o.intents ++ [⟨order, 0, o.clock, false⟩] }

/-- Takes in a command. -/
def submit (c : Change) (o : Outbox) : Outbox × Except CommandError Unit :=
  match o.builder.request o.settings.targetRouter c.action c.resource with
  | .error e =>
    ({ o with tally := { o.tally with namingErrors := o.tally.namingErrors + 1 } },
      .error (.naming e))
  | .ok request =>
    if o.isShutDown then (o, .error .shutDown)
    else ((o.supersede c.resource request).place c.resource request, .ok ())

/-- Takes in a change that was observed; a refusal is noted. -/
def relay (c : Change) (o : Outbox) : Outbox :=
  match o.submit c with
  | (o, .ok ()) => o
  | (o, .error e) => o.note (.unschedulable c.resource.session e)

/-- Takes in changes that were observed. -/
def relayAll (cs : List Change) (o : Outbox) : Outbox := cs.foldl (fun o c => o.relay c) o

/-- Cancels all orders, and takes no more commands. -/
def shutDown (o : Outbox) : Outbox :=
  { o with
    isShutDown := true
    intents := o.intents.map Intent.cancel
    notes := o.notes ++ [.shutDown o.pendingCount] }

/-- What can be asked of an outbox. -/
inductive Command where
  | submit (c : Change)
  | relay (c : Change)
  | shutDown
  /-- Asks how many orders are pending. -/
  | count
deriving DecidableEq, Inhabited

/-- What an outbox answers. -/
inductive Answer where
  | done
  | refused (e : CommandError)
  | count (n : Nat)
deriving DecidableEq

/-- Does what is asked. -/
def run (c : Command) (o : Outbox) : Outbox × Answer :=
  match c with
  | .submit c =>
    match o.submit c with
    | (o, .ok ()) => (o, .done)
    | (o, .error e) => (o, .refused e)
  | .relay c => (o.relay c, .done)
  | .shutDown => (o.shutDown, .done)
  | .count => (o, .count o.pendingCount)

/-- Does what is asked, one after the other. -/
def runAll : List Command → Outbox → Outbox × List Answer
  | [], o => (o, [])
  | c :: cs, o =>
    let first := o.run c
    let rest := runAll cs first.1
    (rest.1, first.2 :: rest.2)

/-! ## Attempts -/

/-- Something is to be done about the intent: it can be tried, or forgotten. -/
def isReady (clock : Nat) (i : Intent) : Bool := i.canceled || decide (i.due ≤ clock)

/-- The first intent about which something is to be done. -/
def next? (o : Outbox) : Option Intent := o.intents.find? (isReady o.clock)

/-- The order is done with. -/
def forget (ticket : Nat) (o : Outbox) : Outbox :=
  { o with intents := o.intents.filter fun i => decide (i.order.ticket ≠ ticket) }

/-- The order was canceled. -/
def isCanceled (o : Outbox) (ticket : Nat) : Bool :=
  o.intents.any fun i => i.order.ticket = ticket && i.canceled

/-- An attempt for the order has failed, and the next one is due after the delay. -/
def postpone (ticket : Nat) (o : Outbox) : Outbox :=
  { o with
    intents := o.intents.map fun i =>
      if i.order.ticket = ticket then
        { i with attempts := i.attempts + 1, due := o.clock + o.settings.retryDelay }
      else i }

/-- Counts an attempt whose outcome does not matter any more. -/
def discard (i : Intent) (o : Outbox) : Outbox :=
  ({ o with tally := { o.tally with attempts := o.tally.attempts + 1 } }.note
    (.discarded i.order.resource (i.attempts + 1))).forget i.order.ticket

/-- Counts an attempt that the engine acknowledged. -/
def succeed (i : Intent) (o : Outbox) : Outbox :=
  ({ o with
    tally := { o.tally with attempts := o.tally.attempts + 1, successes := o.tally.successes + 1 }
  }.note (.acknowledged i.order.resource i.order.request.action i.order.request.entity
    (i.attempts + 1))).forget i.order.ticket

/-- Counts an attempt that failed. -/
def fail (i : Intent) (f : Failure) (o : Outbox) : Outbox :=
  let tally := { o.tally with attempts := o.tally.attempts + 1 }
  ({ o with
    tally := match f with
      | .refused _ => { tally with failures := tally.failures + 1 }
      | .timeout => { tally with timeouts := tally.timeouts + 1 }
  }.note (.failed i.order.resource i.order.request.action i.order.request.entity
    (i.attempts + 1) o.settings.retryDelay f)).postpone i.order.ticket

/-- Counts an attempt that broke down. -/
def breakDown (i : Intent) (o : Outbox) : Outbox :=
  ({ o with
    tally := { o.tally with attempts := o.tally.attempts + 1, failures := o.tally.failures + 1 }
  }.note (.broken i.order.resource (i.attempts + 1) o.settings.retryDelay)).postpone i.order.ticket

/-- Takes in how the attempt for an intent ended. -/
def conclude (i : Intent) (reply : Reply) (o : Outbox) : Outbox :=
  if o.isCanceled i.order.ticket then o.discard i
  else
    match reply with
    | .response r => if r.acknowledged then o.succeed i else o.fail i (.refused r.message)
    | .silence => o.fail i .timeout
    | .breakdown => o.breakDown i

/-! ## Refusals and shutdown -/

theorem submit_of_naming_error {o : Outbox} {c : Change} {e : NamingError}
    (h : o.builder.request o.settings.targetRouter c.action c.resource = .error e) :
    o.submit c
      = ({ o with tally := { o.tally with namingErrors := o.tally.namingErrors + 1 } },
          .error (.naming e)) := by
  simp [submit, h]

theorem submit_of_isShutDown {o : Outbox} {c : Change} {request : Request}
    (hs : o.isShutDown = true)
    (h : o.builder.request o.settings.targetRouter c.action c.resource = .ok request) :
    o.submit c = (o, .error .shutDown) := by
  simp [submit, h, hs]

theorem pendingCount_shutDown (o : Outbox) : o.shutDown.pendingCount = 0 := by
  simp [shutDown, pendingCount, Intent.cancel]

/-! ## The number of intents -/

@[simp] theorem length_intents_supersede (k : Resource) (r : Request) (o : Outbox) :
    (o.supersede k r).intents.length = o.intents.length := by
  unfold supersede
  split <;> simp

@[simp] theorem length_intents_place (k : Resource) (r : Request) (o : Outbox) :
    (o.place k r).intents.length = o.intents.length + 1 := by
  simp [place]

theorem length_intents_submit_le (c : Change) (o : Outbox) :
    (o.submit c).1.intents.length ≤ o.intents.length + 1 := by
  unfold submit
  split
  · exact Nat.le_succ _
  · split
    · exact Nat.le_succ _
    · simp

theorem length_intents_run_le (c : Command) (o : Outbox) :
    (o.run c).1.intents.length ≤ o.intents.length + 1 := by
  cases c with
  | submit c =>
    have h := length_intents_submit_le c o
    simp only [run]
    split <;> simp_all
  | relay c =>
    have h := length_intents_submit_le c o
    simp only [run, relay]
    split <;> simp_all [note]
  | shutDown => simp [run, shutDown]
  | count => simp [run]

theorem length_intents_runAll_le (cs : List Command) (o : Outbox) :
    (o.runAll cs).1.intents.length ≤ o.intents.length + cs.length := by
  induction cs generalizing o with
  | nil => simp [runAll]
  | cons c cs ih =>
    have h1 := length_intents_run_le c o
    have h2 := ih (o.run c).1
    simp only [runAll, List.length_cons]
    omega

theorem length_forget_lt {o : Outbox} {i : Intent} (h : i ∈ o.intents) :
    (o.forget i.order.ticket).intents.length < o.intents.length := by
  have hlt : (o.intents.filter fun j => decide (j.order.ticket ≠ i.order.ticket)).length
      < o.intents.length := by
    rw [List.length_filter_lt_length_iff_exists]
    exact ⟨i, h, by simp⟩
  exact hlt

end Outbox

end RoutingSessions
