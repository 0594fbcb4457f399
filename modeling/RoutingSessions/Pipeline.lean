/-
  RoutingSessions.Pipeline — a whole service: discovery in, commands out.

  What the observer reports is delivered to a recorder and to the outbox, in that
  order.  Once the delivery is closed the observer goes on, and what it reports is
  lost.  A step of a run gives the engine its turn after each line; a service that is
  fed without a break need not (`RoutingSessions.Program`).

  Main statement:
    * `close_exchange` — closing the delivery leaves the exchange alone.
-/
import RoutingSessions.Delivery
import RoutingSessions.Exchange
import RoutingSessions.Observer
import RoutingSessions.Settings

namespace RoutingSessions

/-- A service. -/
structure Pipeline where
  observer : Observer
  /-- The delivery to the recorder. -/
  delivery : Delivery
  exchange : Exchange

namespace Pipeline

/-! ## Construction -/

/-- The namer of a service: entities are named after the engine that commands are for. -/
def namer (s : Settings) : Namer := ⟨s.commands.targetRouter, s.naming⟩

/-- The outbox of a service. -/
def outbox (s : Settings) : Outbox := .new s.commands (namer s).builder

/-- The service that the settings describe, before anything happens. -/
def start (m : Expression.Matcher) (s : Settings) (script : Script) :
    Except SettingsFault Pipeline :=
  (s.buildFilters m).map fun filters =>
    ⟨.new filters, .start [.steady], .start (outbox s) script⟩

/-! ## Steps -/

/-- Takes in an announcement, and relays what came of it; says whether that was delivered, and what
is noted. -/
def observe (n : Notification) (p : Pipeline) : Pipeline × Except DeliveryError Unit × List Note :=
  let seen := p.observer.notice n
  let published := p.delivery.publish seen.2
  let outbox :=
    if p.delivery.isRunning then p.exchange.outbox.relayAll seen.2 else p.exchange.outbox
  (⟨seen.1, published.1, { p.exchange with outbox := outbox }⟩, published.1.flush,
    p.observer.admissionNotes n.endpoint ++ published.2)

/-- Gives the engine its turn: everything that can be done now is done. -/
def serve (p : Pipeline) : Pipeline := { p with exchange := p.exchange.drain }

/-- Takes in an announcement, and gives the engine its turn. -/
def notice (n : Notification) (p : Pipeline) : Pipeline × Except DeliveryError Unit × List Note :=
  let seen := p.observe n
  (seen.1.serve, seen.2)

/-- Closes the delivery; what is noted comes second. -/
def close (p : Pipeline) : Pipeline × List Note :=
  let closed := p.delivery.close
  ({ p with delivery := closed.1 }, closed.2)

/-- A step of a run. -/
inductive Step where
  /-- A line of a trace. -/
  | line (text : String)
  | close
  | exchange (step : Exchange.Step)
deriving DecidableEq

/-- What a step gives. -/
inductive Result where
  /-- The line holds nothing. -/
  | idle
  /-- The line is not one of a trace. -/
  | unreadable (e : TraceError)
  | done
  /-- The delivery has ended. -/
  | undelivered (e : DeliveryError)
  | exchange (r : Exchange.Result)
deriving DecidableEq

/-- Takes a step; a line has the number `line`.  What observer and delivery noted comes last. -/
def run (line : Nat) (step : Step) (p : Pipeline) : Pipeline × Result × List Note :=
  match step with
  | .line text =>
    match Trace.readLine text line with
    | .error e => (p, .unreadable e, [])
    | .ok none => (p, .idle, [])
    | .ok (some n) =>
      let done := p.notice n
      (done.1,
        match done.2.1 with
          | .ok () => .done
          | .error e => .undelivered e,
        done.2.2)
  | .close =>
    let done := p.close
    (done.1, .done, done.2)
  | .exchange step =>
    let done := p.exchange.run step
    ({ p with exchange := done.1 }, .exchange done.2, [])

theorem close_exchange (p : Pipeline) : p.close.1.exchange = p.exchange := rfl

end Pipeline

end RoutingSessions
