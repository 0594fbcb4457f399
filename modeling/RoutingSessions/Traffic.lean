/-
  RoutingSessions.Traffic — an outbox whose attempts overlap.

  Attempts take time.  While an attempt for one resource is under way, attempts for
  others may start and end, time may pass, and commands may come in.  Traffic is an
  outbox with attempts that are under way or have ended, and every order of events that
  the outbox allows: an order may be tried when it is due and not canceled, and when all
  older orders for its resource are done with.  That a new order waits for those that it
  superseded is what keeps attempts for one resource apart.  Attempts for different
  resources come in no order.

  An event happens at once.  A command is looked at and taken in by one event, so it
  comes before or after a shutdown; and the end of an attempt is one event as well, from
  the look at whether the order was canceled to the order's being done with.

  An exchange is traffic of which a clock decides the order of events
  (`RoutingSessions.Exchange`).

  Main statements:
    * `Path.preserves` — what every event preserves holds wherever events lead.
    * `path_append_iff` — a path may be cut anywhere.
-/
import RoutingSessions.Outbox

namespace RoutingSessions

/-! ## Attempts -/

/-- An attempt that has started. -/
structure Attempt where
  time : Nat
  order : Order
  /-- How it ended, unless it is under way. -/
  reply : Option Reply
deriving DecidableEq

/-- The engine was reached and did as it was told. -/
def Attempt.succeeded (a : Attempt) : Bool := a.reply.any Reply.acknowledged

/-- An outbox, and the attempts for its orders. -/
structure Traffic where
  outbox : Outbox
  /-- The attempts that have started, oldest first. -/
  attempts : List Attempt

namespace Traffic

/-- Traffic before anything happens. -/
def new (settings : CommandSettings) (builder : CommandBuilder) : Traffic :=
  ⟨.new settings builder, []⟩

/-- An attempt for the order was answered with success. -/
def Acknowledged (t : Traffic) (order : Order) : Prop :=
  ∃ a ∈ t.attempts, a.order = order ∧ a.succeeded = true

/-- An attempt for the order is under way. -/
def UnderWay (t : Traffic) (order : Order) : Prop :=
  ∃ a ∈ t.attempts, a.order = order ∧ a.reply = none

/-- How many attempts are under way. -/
def underWayCount (t : Traffic) : Nat := t.attempts.countP (·.reply.isNone)

/-- The attempts for a resource, oldest first. -/
def attemptsFor (k : Resource) (t : Traffic) : List Attempt :=
  t.attempts.filter (·.order.resource = k)

/-! ## Events -/

/-- The order may be tried now. -/
structure MayStart (t : Traffic) (i : Intent) : Prop where
  mem_intents : i ∈ t.outbox.intents
  live : i.canceled = false
  due : i.due ≤ t.outbox.clock
  /-- The orders for the resource that came before it are done with. -/
  oldest : ∀ j ∈ t.outbox.intents, j.order.resource = i.order.resource →
    i.order.ticket ≤ j.order.ticket
  /-- It is not being tried already. -/
  idle : ∀ a ∈ t.attempts, a.order = i.order → a.reply ≠ none

/-- Asks something of the outbox. -/
def ask (c : Outbox.Command) (t : Traffic) : Traffic :=
  { t with outbox := (t.outbox.run c).1 }

/-- Lets a millisecond pass. -/
def tick (t : Traffic) : Traffic :=
  { t with outbox := { t.outbox with clock := t.outbox.clock + 1 } }

/-- Forgets an order. -/
def forget (i : Intent) (t : Traffic) : Traffic :=
  { t with outbox := t.outbox.forget i.order.ticket }

/-- Starts an attempt. -/
def start (i : Intent) (t : Traffic) : Traffic :=
  { t with attempts := t.attempts ++ [⟨t.outbox.clock, i.order, none⟩] }

/-- The attempt, answered if it is under way for the order. -/
def answer (order : Order) (reply : Reply) (a : Attempt) : Attempt :=
  if a.order = order ∧ a.reply = none then { a with reply := some reply } else a

/-- Ends the attempt for an intent. -/
def finish (i : Intent) (reply : Reply) (t : Traffic) : Traffic :=
  ⟨t.outbox.conclude i reply, t.attempts.map (answer i.order reply)⟩

/-- What can happen. -/
inductive Event where
  /-- A command is given. -/
  | ask (c : Outbox.Command)
  /-- A millisecond passes. -/
  | tick
  /-- A canceled order is forgotten. -/
  | forget (i : Intent)
  /-- An attempt starts. -/
  | start (i : Intent)
  /-- An attempt ends, in whatever way. -/
  | finish (i : Intent) (reply : Reply)
deriving DecidableEq

/-- The command that is given, if one is. -/
def Event.command? : Event → Option Outbox.Command
  | .ask c => some c
  | .tick => none
  | .forget _ => none
  | .start _ => none
  | .finish _ _ => none

/-- What an event makes of the traffic. -/
def after : Event → Traffic → Traffic
  | .ask c, t => t.ask c
  | .tick, t => t.tick
  | .forget i, t => t.forget i
  | .start i, t => t.start i
  | .finish i reply, t => t.finish i reply

/-- What events make of the traffic, one after the other. -/
def afterAll : List Event → Traffic → Traffic
  | [], t => t
  | e :: es, t => afterAll es (t.after e)

/-- What can be told of events, one after the other, by where they happen. -/
def along {α : Type} (tell : Event → Traffic → List α) : List Event → Traffic → List α
  | [], _ => []
  | e :: es, t => tell e t ++ along tell es (t.after e)

/-- One event. -/
inductive Move : Event → Traffic → Traffic → Prop where
  | ask (c : Outbox.Command) {t : Traffic} : Move (.ask c) t (t.ask c)
  | tick {t : Traffic} : Move .tick t t.tick
  /-- An order that is being tried is not forgotten. -/
  | forget {i : Intent} {t : Traffic} : i ∈ t.outbox.intents → i.canceled = true →
      ¬t.UnderWay i.order → Move (.forget i) t (t.forget i)
  | start {i : Intent} {t : Traffic} : t.MayStart i → Move (.start i) t (t.start i)
  | finish {i : Intent} (reply : Reply) {t : Traffic} : t.UnderWay i.order →
      Move (.finish i reply) t (t.finish i reply)

theorem Move.eq_after {e : Event} {t u : Traffic} (h : Move e t u) : u = t.after e := by
  cases h <;> rfl

/-- What comes after some events comes after the first and the second of them. -/
theorem afterAll_append (first second : List Event) (t : Traffic) :
    t.afterAll (first ++ second) = (t.afterAll first).afterAll second := by
  induction first generalizing t with
  | nil => rfl
  | cons e first ih => exact ih (t.after e)

theorem along_append {α : Type} (tell : Event → Traffic → List α) (first second : List Event)
    (t : Traffic) :
    along tell (first ++ second) t
      = along tell first t ++ along tell second (t.afterAll first) := by
  induction first generalizing t with
  | nil => rfl
  | cons e first ih =>
    show tell e t ++ along tell (first ++ second) (t.after e) = _
    rw [ih, ← List.append_assoc]
    rfl

/-- Nothing can happen until time passes or a command comes in. -/
structure AtRest (t : Traffic) : Prop where
  idle : ∀ a ∈ t.attempts, a.reply ≠ none
  live : ∀ i ∈ t.outbox.intents, i.canceled = false
  waiting : ∀ i, ¬t.MayStart i

/-! ## Kinds of events -/

/-- The event takes no time, and commands and replies are of some kind. -/
def Event.Momentary (okc : Outbox.Command → Prop) (okr : Reply → Prop) : Event → Prop
  | .ask c => okc c
  | .tick => False
  | .forget _ => True
  | .start _ => True
  | .finish _ reply => okr reply

/-- Time passes only when nothing is left to do. -/
def Event.Patient (e : Event) (t : Traffic) : Prop := e = .tick → t.AtRest

/-! ## Paths -/

/-- Events that lead from one state to the other, each of which is permitted where it happens. -/
inductive Path (ok : Event → Traffic → Prop) : List Event → Traffic → Traffic → Prop where
  | nil {t : Traffic} : Path ok [] t t
  | cons {e : Event} {es : List Event} {t u v : Traffic} :
      ok e t → Move e t u → Path ok es u v → Path ok (e :: es) t v

/-- Some events lead from one state to the other. -/
def Reaches (t u : Traffic) : Prop := ∃ es, Path (fun _ _ => True) es t u

section Paths

variable {ok ok' : Event → Traffic → Prop} {e : Event} {es first second : List Event}
  {t u v : Traffic}

theorem Path.single (hok : ok e t) (hmove : Move e t u) : Path ok [e] t u := .cons hok hmove .nil

/-- **A path may be cut anywhere.** -/
theorem path_append_iff :
    Path ok (first ++ second) t v ↔ ∃ u, Path ok first t u ∧ Path ok second u v := by
  induction first generalizing t with
  | nil =>
    constructor
    · exact fun h => ⟨t, .nil, h⟩
    · rintro ⟨_, ⟨⟩, h⟩
      exact h
  | cons e first ih =>
    constructor
    · rintro ⟨⟩
      next hok hmove hrest =>
        obtain ⟨u, hfirst, hsecond⟩ := ih.1 hrest
        exact ⟨u, .cons hok hmove hfirst, hsecond⟩
    · rintro ⟨u, ⟨⟩, hsecond⟩
      next hok hmove hfirst => exact .cons hok hmove (ih.2 ⟨u, hfirst, hsecond⟩)

theorem Path.append (htu : Path ok first t u) (huv : Path ok second u v) :
    Path ok (first ++ second) t v := path_append_iff.2 ⟨u, htu, huv⟩

/-- What is permitted may be more. -/
theorem Path.mono (hmore : ∀ e t, ok e t → ok' e t) (h : Path ok es t u) : Path ok' es t u := by
  induction h with
  | nil => exact .nil
  | cons hok hmove _ ih => exact .cons (hmore _ _ hok) hmove ih

/-- What happens on a path is permitted. -/
theorem Path.permits {P : Event → Prop} (h : Path (fun e _ => P e) es t u) : ∀ e ∈ es, P e := by
  intro e he
  induction h with
  | nil => cases he
  | cons hok _ _ ih =>
    rcases List.mem_cons.1 he with rfl | he
    · exact hok
    · exact ih he

/-- **What every event preserves holds wherever events lead**, and it may speak of the events that
have happened. -/
theorem Path.accumulates {P : List Event → Traffic → Prop}
    (hmove : ∀ past e t u, P past t → ok e t → Move e t u → P (past ++ [e]) u)
    (h : Path ok es t u) (past : List Event) (ht : P past t) : P (past ++ es) u := by
  induction h generalizing past with
  | nil => rwa [List.append_nil]
  | @cons e es _ _ _ hok hlast _ ih =>
    have hrest := ih (past ++ [e]) (hmove past e _ _ ht hok hlast)
    rwa [List.append_assoc] at hrest

theorem Path.preserves {P : Traffic → Prop} (hmove : ∀ e t u, P t → ok e t → Move e t u → P u)
    (h : Path ok es t u) (ht : P t) : P u :=
  h.accumulates (P := fun _ => P) (fun _ => hmove) [] ht

theorem Path.reaches (h : Path ok es t u) : Reaches t u := ⟨es, h.mono fun _ _ _ => trivial⟩

/-- Commands that come one after the other. -/
theorem path_askAll {cs : List Outbox.Command} (hcs : ∀ c ∈ cs, ∀ t, ok (.ask c) t)
    (t : Traffic) : Path ok (cs.map .ask) t { t with outbox := (t.outbox.runAll cs).1 } := by
  induction cs generalizing t with
  | nil => exact .nil
  | cons c cs ih =>
    refine .cons (hcs c List.mem_cons_self t) (.ask c) ?_
    exact ih (fun d hd => hcs d (List.mem_cons_of_mem _ hd)) (t.ask c)

namespace Reaches

theorem refl (t : Traffic) : Reaches t t := ⟨[], .nil⟩

theorem single (hmove : Move e t u) : Reaches t u := ⟨[e], .single trivial hmove⟩

theorem trans (htu : Reaches t u) (huv : Reaches u v) : Reaches t v := by
  obtain ⟨first, hfirst⟩ := htu
  obtain ⟨second, hsecond⟩ := huv
  exact ⟨first ++ second, hfirst.append hsecond⟩

theorem tail (htu : Reaches t u) (hmove : Move e u v) : Reaches t v := htu.trans (.single hmove)

theorem preserves {P : Traffic → Prop} (hmove : ∀ e t u, P t → Move e t u → P u)
    (htu : Reaches t u) (ht : P t) : P u := by
  obtain ⟨_, hpath⟩ := htu
  exact hpath.preserves (fun e t u hP _ => hmove e t u hP) ht

end Reaches

end Paths

end Traffic

end RoutingSessions
