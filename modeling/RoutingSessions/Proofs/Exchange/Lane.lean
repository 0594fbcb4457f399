/-
  RoutingSessions.Proofs.Exchange.Lane — what one resource sees of an exchange.

  The orders of all resources stand in one list, are numbered together and are worked
  off by one loop, and the attempts for all entities use up one script.  A lane has
  none of this.  It is a machine for a single resource: at most one errand, which is
  run whenever it is due until it is acknowledged, and a list of outcomes of its own.

  As long as no other resource goes by the same entity and no commands come in while
  an attempt is under way, an exchange seen from one resource is its lane: what is
  done about other resources does not move the lane, and what is done about this one
  moves it as the lane itself would.

  Main statements:
    * `lane_ask`, `lane_process` — one thing that happens, seen from a resource.
    * `lane_drain` — the shared loop does for a resource what its lane does alone.
    * `lane_run` — a step of an exchange is a step of the lane.
-/
import RoutingSessions.Proofs.Exchange.Moves
import RoutingSessions.Proofs.Outbox.Pending
import RoutingSessions.Proofs.Request

namespace RoutingSessions

/-! ## §1. Scripts, seen from an entity. -/

namespace Script

/-- The lines for an entity. -/
def only (entity : Option String) (script : Script) : Script :=
  script.filter fun line => entity = some line.1

/-- The outcomes for an entity. -/
def outcomesFor (entity : Option String) (script : Script) : List Outcome :=
  (script.only entity).map (·.2)

theorem outcomesFor_append (entity : Option String) (first second : Script) :
    outcomesFor entity (first ++ second)
      = outcomesFor entity first ++ outcomesFor entity second := by
  unfold outcomesFor only
  rw [List.filter_append, List.map_append]

theorem outcomesFor_only (entity : Option String) (script : Script) :
    (script.only entity).outcomesFor entity = script.outcomesFor entity := by
  unfold outcomesFor only
  rw [List.filter_filter]
  simp

/-- An attempt gets the first outcome for its entity, and uses it up. -/
theorem take_eq (entity : String) (script : Script) :
    (script.take entity).1 = (script.outcomesFor (some entity)).headD .acknowledged
      ∧ (script.take entity).2.outcomesFor (some entity)
        = (script.outcomesFor (some entity)).tail := by
  induction script with
  | nil => exact ⟨rfl, rfl⟩
  | cons line lines ih =>
    unfold take outcomesFor only
    by_cases he : line.1 = entity
    · simp [he]
    · -- the line is for another entity, and stays
      have hne : ¬entity = line.1 := fun heq => he heq.symm
      simpa [he, hne, outcomesFor, only] using ih

/-- An attempt for one entity uses up nothing of another. -/
theorem outcomesFor_take_of_ne {entity : Option String} {other : String}
    (hne : entity ≠ some other) (script : Script) :
    (script.take other).2.outcomesFor entity = script.outcomesFor entity := by
  induction script with
  | nil => rfl
  | cons line lines ih =>
    unfold take outcomesFor only
    by_cases he : line.1 = other
    · subst he
      simp [hne]
    · simp only [if_neg he]
      unfold outcomesFor only at ih
      rw [List.filter_cons, List.filter_cons]
      split
      next => rw [List.map_cons, List.map_cons, ih]
      next => exact ih

end Script

/-- Two resources go by the same entity. -/
def CommandBuilder.Clash (b : CommandBuilder) (j k : Resource) : Prop :=
  j ≠ k ∧ (b.entity? k).isSome = true ∧ b.entity? j = b.entity? k

instance (b : CommandBuilder) (j k : Resource) : Decidable (b.Clash j k) :=
  inferInstanceAs (Decidable (j ≠ k ∧ (b.entity? k).isSome = true ∧ b.entity? j = b.entity? k))

/-- The resource that a command is about. -/
def Outbox.Command.resource? : Outbox.Command → Option Resource
  | .submit c => some c.resource
  | .relay c => some c.resource
  | .shutDown => none
  | .count => none

/-! ## §2. Lanes. -/

/-- What is left to do for a resource. -/
structure Errand where
  request : Request
  /-- When the next attempt may start. -/
  due : Nat

/-- A request as it reaches the engine. -/
structure Call where
  time : Nat
  request : Request
  /-- How long the engine may take for its answer. -/
  timeout : Nat
  reply : Reply

/-- A machine for one resource. -/
structure Lane where
  resource : Resource
  settings : CommandSettings
  builder : CommandBuilder
  clock : Nat
  isShutDown : Bool
  errand : Option Errand
  /-- How the attempts go, in the order in which the outcomes are used up. -/
  outcomes : List Outcome
  /-- The calls made, oldest first. -/
  calls : List Call

namespace Lane

/-- Takes in a change of the resource. -/
def submit (c : Change) (l : Lane) : Lane :=
  match l.builder.request l.settings.targetRouter c.action c.resource with
  | .error _ => l
  | .ok request => if l.isShutDown then l else { l with errand := some ⟨request, l.clock⟩ }

theorem submit_of_error {l : Lane} {c : Change} {e : NamingError}
    (h : l.builder.request l.settings.targetRouter c.action c.resource = .error e) :
    l.submit c = l := by
  unfold submit
  rw [h]

theorem submit_of_ok {l : Lane} {c : Change} {request : Request}
    (h : l.builder.request l.settings.targetRouter c.action c.resource = .ok request) :
    l.submit c = if l.isShutDown then l else { l with errand := some ⟨request, l.clock⟩ } := by
  unfold submit
  rw [h]

/-- Takes in a command, if it matters to the resource. -/
def ask (c : Outbox.Command) (l : Lane) : Lane :=
  match c with
  | .submit c => if c.resource = l.resource then l.submit c else l
  | .relay c => if c.resource = l.resource then l.submit c else l
  | .shutDown => { l with isShutDown := true, errand := none }
  | .count => l

/-- Takes in commands. -/
def askAll (cs : List Outbox.Command) (l : Lane) : Lane := cs.foldl (fun l c => l.ask c) l

/-- The errand, if it is due. -/
def due? (l : Lane) : Option Errand := l.errand.filter fun e => decide (e.due ≤ l.clock)

/-- Runs an errand. -/
def attempt (e : Errand) (l : Lane) : Lane :=
  let outcome := l.outcomes.headD .acknowledged
  { l with
    errand :=
      if outcome.reply.acknowledged then none
      else some { e with due := l.clock + l.settings.retryDelay }
    outcomes := l.outcomes.tail
    calls := l.calls ++ [⟨l.clock, e.request, l.settings.requestTimeout, outcome.reply⟩] }

/-- A bound on how often the errand can be run before time passes. -/
def work (l : Lane) : Nat := l.outcomes.length + if l.errand.isSome then 1 else 0

theorem errand_of_due? {l : Lane} {e : Errand} (h : l.due? = some e) :
    l.errand = some e ∧ e.due ≤ l.clock := by
  obtain ⟨herrand, hdue⟩ := Option.filter_eq_some_iff.1 h
  exact ⟨herrand, of_decide_eq_true hdue⟩

theorem work_attempt_lt {l : Lane} {e : Errand} (h : l.due? = some e) :
    (l.attempt e).work < l.work := by
  have herrand := (errand_of_due? h).1
  unfold work attempt
  rw [herrand]
  cases l.outcomes with
  | nil => simp [Outcome.acknowledged, Reply.acknowledged, Response.ok]
  | cons outcome rest =>
    show rest.length + _ < rest.length + 1 + 1
    split <;> omega

/-- Runs the errand until it is not due any more. -/
def drain (l : Lane) : Lane :=
  match _h : l.due? with
  | none => l
  | some e => (l.attempt e).drain
termination_by l.work
decreasing_by exact work_attempt_lt ‹_›

/-- Lets a millisecond pass. -/
def tick (l : Lane) : Lane := drain { l with clock := l.clock + 1 }

/-- Lets so many milliseconds pass. -/
def advance : Nat → Lane → Lane
  | 0, l => l
  | n + 1, l => advance n l.tick

/-- Takes a step.  How long others take to settle is not for a lane to know. -/
def run (step : Exchange.Step) (l : Lane) : Lane :=
  match step with
  | .ask c => (l.ask c).drain
  | .batch cs => (l.askAll cs).drain
  | .advance ms => l.advance ms
  | .settle _ => l
  | .script more =>
    { l with outcomes := l.outcomes ++ more.outcomesFor (l.builder.entity? l.resource) }
  | .closed => l

theorem drain_of_idle {l : Lane} (h : l.due? = none) : l.drain = l := by
  rw [drain]
  split
  next => rfl
  next heq =>
    rw [h] at heq
    cases heq

theorem drain_of_due? {l : Lane} {e : Errand} (h : l.due? = some e) :
    l.drain = (l.attempt e).drain := by
  rw [drain]
  split
  next heq =>
    rw [h] at heq
    cases heq
  next heq =>
    rw [h] at heq
    rw [Option.some.inj heq]

end Lane

namespace Exchange

open Outbox

/-! ## §3. The lane of a resource. -/

/-- The calls made for a resource, oldest first. -/
def callsFor (k : Resource) (x : Exchange) : List Call :=
  (x.sent.filter (·.order.resource = k)).map fun s =>
    ⟨s.time, s.order.request, x.outbox.settings.requestTimeout, s.reply⟩

/-- What a resource sees of an exchange. -/
def lane (k : Resource) (x : Exchange) : Lane where
  resource := k
  settings := x.outbox.settings
  builder := x.outbox.builder
  clock := x.outbox.clock
  isShutDown := x.outbox.isShutDown
  errand := (x.outbox.pendingFor? k).map fun i => ⟨i.order.request, i.due⟩
  outcomes := x.script.outcomesFor (x.outbox.builder.entity? k)
  calls := x.callsFor k

/-- In the exchange nothing is mistaken for something of the resource: what is under way for
others goes by other entities, and attempts do not lead to commands. -/
structure Distinct (builder : CommandBuilder) (k : Resource) (x : Exchange) : Prop where
  coherent : builder.Coherent
  orderly : x.outbox.Orderly
  silent : x.script.Permits fun _ => False
  builder_eq : x.outbox.builder = builder
  entity_eq_iff : ∀ i ∈ x.outbox.intents,
    builder.entity? k = some i.order.request.entity ↔ i.order.resource = k

theorem distinct_start (settings : CommandSettings) {builder : CommandBuilder}
    (hb : builder.Coherent) (k : Resource) {script : Script}
    (hscript : script.Permits fun _ => False) :
    Distinct builder k (start (.new settings builder) script) where
  coherent := hb
  orderly := orderly_new settings builder
  silent := hscript
  builder_eq := rfl
  entity_eq_iff _ hi := nomatch hi

theorem lane_congr {k : Resource} {x y : Exchange} (hbooks : SameBooks x.outbox y.outbox)
    (hclock : y.outbox.clock = x.outbox.clock)
    (hpending : y.outbox.pendingFor? k = x.outbox.pendingFor? k)
    (houtcomes : y.script.outcomesFor (x.outbox.builder.entity? k)
      = x.script.outcomesFor (x.outbox.builder.entity? k))
    (hcalls : y.callsFor k = x.callsFor k) : y.lane k = x.lane k := by
  unfold lane
  rw [hbooks.settings, hbooks.builder, hbooks.isShutDown, hclock, hpending, houtcomes, hcalls]

namespace Distinct

variable {builder : CommandBuilder} {k : Resource} {x y : Exchange}

/-- Orders may go, and what is not an order may change. -/
theorem of_marks (h : Distinct builder k x) (hbooks : SameBooks x.outbox y.outbox)
    (hmarks : (y.outbox.intents.map mark).Sublist (x.outbox.intents.map mark))
    (hscript : y.script.Permits fun _ => False) : Distinct builder k y where
  coherent := h.coherent
  orderly := h.orderly.of_sublist hbooks.ledger hbooks.isShutDown hmarks
  silent := hscript
  builder_eq := hbooks.builder.trans h.builder_eq
  entity_eq_iff i hi := by
    obtain ⟨j, hj, horder, _⟩ := exists_of_sublist_marks hmarks hi
    rw [← horder]
    exact h.entity_eq_iff j hj

/-- With a new order the entities stay apart, if its resource has another entity or is this
one. -/
theorem ask (h : Distinct builder k x) {c : Outbox.Command}
    (hc : ∀ j, c.resource? = some j → ¬builder.Clash j k) : Distinct builder k (x.ask c).1 where
  coherent := h.coherent
  orderly := h.orderly.run c
  silent := h.silent
  builder_eq := (builder_run c x.outbox).trans h.builder_eq
  entity_eq_iff i hi := by
    have hi : i ∈ (x.outbox.run c).1.intents := hi
    rcases run_cases c x.outbox with ⟨_, _, heq⟩ | ⟨change, request, hcmd, hr, _, heq⟩ | ⟨_, heq⟩
    · rw [heq] at hi
      exact h.entity_eq_iff i hi
    · rw [heq] at hi
      rcases mem_intents_accept.1 hi with ⟨j, hj, rfl⟩ | rfl
      · rw [order_cancelFor]
        exact h.entity_eq_iff j hj
      · show _ = some request.entity ↔ change.resource = k
        -- the request is about the entity of its resource
        rw [h.builder_eq] at hr
        have hentity := h.coherent _ _ _ _ hr
        have hresource : c.resource? = some change.resource := by
          rcases hcmd with rfl | rfl <;> rfl
        constructor
        · intro hsame
          by_contra hne
          exact hc _ hresource ⟨hne, by rw [hsame]; rfl, by rw [hentity, hsame]⟩
        · exact fun hk => by rw [← hk, hentity]
    · rw [heq] at hi
      obtain ⟨j, hj, rfl⟩ := List.mem_map.1 hi
      exact h.entity_eq_iff j hj

end Distinct

/-! ## §4. One thing that happens. -/

section Happenings

variable {builder : CommandBuilder} {k : Resource} {x : Exchange}

theorem lane_accept (h : x.outbox.Orderly) (hs : x.outbox.isShutDown = false) (k' : Resource)
    (request : Request) :
    lane k { x with outbox := x.outbox.accept k' request }
      = if k' = k then { x.lane k with errand := some ⟨request, x.outbox.clock⟩ }
        else x.lane k := by
  unfold lane callsFor
  simp only [settings_accept, builder_accept, isShutDown_accept, clock_accept,
    h.pendingFor?_accept hs]
  split
  next => rfl
  next => rfl

theorem lane_submit (h : x.outbox.Orderly) (c : Change) :
    lane k { x with outbox := (x.outbox.submit c).1 }
      = if c.resource = k then (x.lane k).submit c else x.lane k := by
  cases hr : x.outbox.builder.request x.outbox.settings.targetRouter c.action c.resource with
  | error e =>
    have hlane : (x.lane k).submit c = x.lane k := Lane.submit_of_error hr
    rw [submit_of_naming_error hr, hlane, ite_self]
    rfl
  | ok request =>
    have hlane : (x.lane k).submit c = if x.outbox.isShutDown then x.lane k
        else { x.lane k with errand := some ⟨request, x.outbox.clock⟩ } := Lane.submit_of_ok hr
    cases hs : x.outbox.isShutDown with
    | true =>
      rw [submit_of_isShutDown hs hr, hlane, if_pos hs, ite_self]
    | false =>
      have haccept : (x.outbox.submit c).1 = x.outbox.accept c.resource request := by
        simp [Outbox.submit, hr, hs, Outbox.accept]
      rw [haccept, lane_accept h hs, hlane, hs]
      rfl

/-- Notes do not matter to a lane. -/
theorem lane_relay (c : Change) :
    lane k { x with outbox := x.outbox.relay c }
      = lane k { x with outbox := (x.outbox.submit c).1 } := by
  unfold Outbox.relay
  split
  next heq => rw [heq]
  next heq =>
    rw [heq]
    rfl

/-- **A command, seen from a resource.** -/
theorem lane_ask (h : x.outbox.Orderly) (c : Outbox.Command) :
    lane k (x.ask c).1 = (x.lane k).ask c := by
  cases c with
  | submit c =>
    have hrun : (x.outbox.run (.submit c)).1 = (x.outbox.submit c).1 := by
      simp only [Outbox.run]
      split
      next heq => rw [heq]
      next heq => rw [heq]
    show lane k { x with outbox := (x.outbox.run (.submit c)).1 } = _
    rw [hrun]
    exact lane_submit h c
  | relay c => exact (lane_relay c).trans (lane_submit h c)
  | shutDown =>
    have hnone : x.outbox.shutDown.pendingFor? k = none := by
      refine Option.eq_none_iff_forall_ne_some.2 fun i hi => ?_
      obtain ⟨hmem, hc, _⟩ := h.shutDown.pendingFor?_eq_some.1 hi
      rw [h.shutDown.halted rfl i hmem] at hc
      cases hc
    show lane k { x with outbox := x.outbox.shutDown } = _
    unfold lane callsFor
    rw [hnone]
    rfl
  | count => rfl

section Process

variable (h : Distinct builder k x) {i : Intent} (hi : x.outbox.next? = some i)
include h hi

theorem lane_forget (hc : i.canceled = true) :
    lane k { x with outbox := x.outbox.forget i.order.ticket } = x.lane k :=
  lane_congr ⟨rfl, rfl, rfl, rfl⟩ rfl
    (h.orderly.pendingFor?_forget (mem_of_next? hi) (.inl hc)) rfl rfl

/-- Nothing is asked while the attempt is under way. -/
theorem outbox_attempt_of_silent (hc : i.canceled = false) : ∃ tally notes,
    (x.attempt i).outbox = if (x.outcome i).reply.acknowledged then
        { x.outbox with tally := tally, notes := notes }.forget i.order.ticket
      else { x.outbox with tally := tally, notes := notes }.postpone i.order.ticket := by
  have hnone : (x.outcome i).commands = [] :=
    List.eq_nil_iff_forall_not_mem.2 (h.silent.take i.order.request.entity).1
  have hasked : x.asked i = x.outbox := by
    unfold asked
    rw [hnone]
    rfl
  rw [outbox_attempt, hasked]
  exact h.orderly.conclude_of_mem (mem_of_next? hi) hc _

theorem sameBooks_attempt (hc : i.canceled = false) :
    SameBooks x.outbox (x.attempt i).outbox ∧ (x.attempt i).outbox.clock = x.outbox.clock := by
  obtain ⟨tally, notes, houtbox⟩ := outbox_attempt_of_silent h hi hc
  rw [houtbox]
  split
  next => exact ⟨⟨rfl, rfl, rfl, rfl⟩, rfl⟩
  next => exact ⟨⟨rfl, rfl, rfl, rfl⟩, rfl⟩

/-- An attempt is one call more for its resource. -/
theorem callsFor_attempt (hc : i.canceled = false) :
    (x.attempt i).callsFor k = x.callsFor k ++
      if i.order.resource = k then
        [⟨x.outbox.clock, i.order.request, x.outbox.settings.requestTimeout,
          (x.outcome i).reply⟩]
      else [] := by
  unfold callsFor
  rw [(sameBooks_attempt h hi hc).1.settings]
  show List.map _ (List.filter _ (x.sent ++ [_])) = _
  rw [List.filter_append, List.map_append]
  congr 1
  by_cases hk : i.order.resource = k
  · simp [hk]
    rfl
  · simp [hk]

/-- An attempt for another resource goes unnoticed. -/
theorem lane_attempt_of_ne (hc : i.canceled = false) (hk : i.order.resource ≠ k) :
    lane k (x.attempt i) = x.lane k := by
  obtain ⟨tally, notes, houtbox⟩ := outbox_attempt_of_silent h hi hc
  have hmem := mem_of_next? hi
  have hcounted := h.orderly.count tally notes
  have hentity : x.outbox.builder.entity? k ≠ some i.order.request.entity := by
    rw [h.builder_eq]
    exact fun heq => hk ((h.entity_eq_iff i hmem).1 heq)
  have hpending : (x.attempt i).outbox.pendingFor? k = x.outbox.pendingFor? k := by
    rw [houtbox]
    split
    next => exact hcounted.pendingFor?_forget hmem (.inr hk)
    next => exact hcounted.pendingFor?_postpone hmem hk
  have hcalls : (x.attempt i).callsFor k = x.callsFor k := by
    rw [callsFor_attempt h hi hc, if_neg hk, List.append_nil]
  obtain ⟨hbooks, hclock⟩ := sameBooks_attempt h hi hc
  exact lane_congr hbooks hclock hpending (Script.outcomesFor_take_of_ne hentity x.script) hcalls

/-- What is tried for a resource is its errand, which is due. -/
theorem due?_lane (hc : i.canceled = false) (hk : i.order.resource = k) :
    (x.lane k).due? = some ⟨i.order.request, i.due⟩ := by
  have hpending : x.outbox.pendingFor? k = some i :=
    h.orderly.pendingFor?_eq_some.2 ⟨mem_of_next? hi, hc, hk⟩
  have hready : isReady x.outbox.clock i = true := List.find?_some hi
  have hdue : i.due ≤ x.outbox.clock := by simpa [isReady, hc] using hready
  unfold Lane.due? lane
  rw [hpending]
  simp [hdue]

/-- The attempt has the first outcome of the lane, and leaves the others. -/
theorem outcomes_attempt (hk : i.order.resource = k) :
    (x.lane k).outcomes.headD .acknowledged = x.outcome i
      ∧ (x.attempt i).script.outcomesFor (x.outbox.builder.entity? k)
        = (x.lane k).outcomes.tail := by
  have hentity : x.outbox.builder.entity? k = some i.order.request.entity := by
    rw [h.builder_eq]
    exact (h.entity_eq_iff i (mem_of_next? hi)).2 hk
  obtain ⟨houtcome, hrest⟩ := Script.take_eq i.order.request.entity x.script
  rw [← hentity] at houtcome hrest
  exact ⟨houtcome.symm, hrest⟩

/-- After the attempt nothing is pending, or the order is put off by the delay. -/
theorem pendingFor?_attempt (hc : i.canceled = false) (hk : i.order.resource = k) :
    (x.attempt i).outbox.pendingFor? k = if (x.outcome i).reply.acknowledged then none
      else some { i with
        attempts := i.attempts + 1, due := x.outbox.clock + x.outbox.settings.retryDelay } := by
  obtain ⟨tally, notes, houtbox⟩ := outbox_attempt_of_silent h hi hc
  have hcounted := h.orderly.count tally notes
  have hpending := hcounted.pendingFor?_eq_some.2 ⟨mem_of_next? hi, hc, hk⟩
  rw [houtbox]
  split
  next => exact hcounted.pendingFor?_forget_self hpending
  next => exact hcounted.pendingFor?_postpone_self hpending

/-- The attempt for a resource is the one of its lane. -/
theorem lane_attempt (hc : i.canceled = false) (hk : i.order.resource = k) :
    lane k (x.attempt i) = (x.lane k).attempt ⟨i.order.request, i.due⟩ := by
  obtain ⟨hbooks, hclock⟩ := sameBooks_attempt h hi hc
  obtain ⟨houtcome, hrest⟩ := outcomes_attempt h hi hk
  unfold Lane.attempt
  rw [houtcome, ← hrest]
  unfold lane
  rw [hbooks.settings, hbooks.builder, hbooks.isShutDown, hclock, pendingFor?_attempt h hi hc hk,
    callsFor_attempt h hi hc, if_pos hk]
  -- the errand is what is pending, without what only the outbox needs
  split
  next hack => simp only [hack, if_true, Option.map_none]
  next hack => simp only [hack, Bool.false_eq_true, if_false, Option.map_some]

theorem distinct_process : Distinct builder k (x.process i) := by
  unfold process
  split
  next =>
    exact h.of_marks ⟨rfl, rfl, rfl, rfl⟩ (marks_forget _ _) h.silent
  next hlive =>
    have hc : i.canceled = false := Bool.eq_false_iff.2 hlive
    obtain ⟨tally, notes, houtbox⟩ := outbox_attempt_of_silent h hi hc
    refine h.of_marks (sameBooks_attempt h hi hc).1 ?_ (h.silent.take _).2
    rw [houtbox]
    split
    next => exact marks_forget _ _
    next => rw [marks_postpone]

/-- **What is done about an intent, seen from a resource**: nothing, or what the lane would do
next. -/
theorem drain_lane_process : (lane k (x.process i)).drain = (x.lane k).drain := by
  unfold process
  split
  next hc => rw [lane_forget h hi hc]
  next hlive =>
    have hc : i.canceled = false := Bool.eq_false_iff.2 hlive
    by_cases hk : i.order.resource = k
    · rw [lane_attempt h hi hc hk, Lane.drain_of_due? (due?_lane h hi hc hk)]
    · rw [lane_attempt_of_ne h hi hc hk]

end Process

/-- When nothing can be done in the exchange, nothing can be done in the lane. -/
theorem drain_lane_of_next? (hx : x.outbox.next? = none) : (x.lane k).drain = x.lane k := by
  refine Lane.drain_of_idle (Option.eq_none_iff_forall_ne_some.2 fun e he => ?_)
  obtain ⟨herrand, hdue⟩ := Lane.errand_of_due? he
  obtain ⟨i, hi, rfl⟩ := Option.map_eq_some_iff.1 herrand
  have hidle := List.find?_eq_none.1 hx i (List.mem_of_find?_eq_some hi)
  have hdue : i.due ≤ x.outbox.clock := hdue
  exact hidle (by simp [isReady, hdue])

end Happenings

/-! ## §5. Steps. -/

section Steps

variable {builder : CommandBuilder} {k : Resource}

/-- **The loop that all resources share does for each what its lane does alone.** -/
theorem lane_drain {x : Exchange} (h : Distinct builder k x) :
    x.drain.lane k = (x.lane k).drain ∧ Distinct builder k x.drain := by
  have hloop : ∀ fuel (y : Exchange), Distinct builder k y → y.work ≤ fuel →
      (drainWith fuel y).lane k = (y.lane k).drain ∧ Distinct builder k (drainWith fuel y) := by
    intro fuel
    induction fuel with
    | zero =>
      intro y hy hwork
      have hidle : y.outbox.next? = none := next?_drainWith hwork
      exact ⟨(drain_lane_of_next? hidle).symm, hy⟩
    | succ fuel ih =>
      intro y hy hwork
      unfold drainWith
      split
      next hidle => exact ⟨(drain_lane_of_next? hidle).symm, hy⟩
      next i hi =>
        have hless := work_process_lt hi
        obtain ⟨hlane, hdistinct⟩ := ih (y.process i) (distinct_process hy hi) (by omega)
        exact ⟨hlane.trans (drain_lane_process hy hi), hdistinct⟩
  exact hloop x.work x h (Nat.le_refl _)

theorem lane_askAll {x : Exchange} (h : Distinct builder k x) {cs : List Outbox.Command}
    (hcs : ∀ c ∈ cs, ∀ j, c.resource? = some j → ¬builder.Clash j k) :
    (x.askAll cs).1.lane k = (x.lane k).askAll cs ∧ Distinct builder k (x.askAll cs).1 := by
  induction cs generalizing x with
  | nil => exact ⟨rfl, h⟩
  | cons c cs ih =>
    have hfirst := h.ask (hcs c List.mem_cons_self)
    obtain ⟨hlane, hdistinct⟩ := ih hfirst fun d hd => hcs d (List.mem_cons_of_mem _ hd)
    refine ⟨hlane.trans ?_, hdistinct⟩
    rw [lane_ask h.orderly]
    rfl

theorem lane_tick {x : Exchange} (h : Distinct builder k x) :
    x.tick.lane k = (x.lane k).tick ∧ Distinct builder k x.tick :=
  lane_drain (h.of_marks ⟨rfl, rfl, rfl, rfl⟩ (.refl _) h.silent)

theorem lane_advance (ms : Nat) {x : Exchange} (h : Distinct builder k x) :
    (x.advance ms).lane k = (x.lane k).advance ms ∧ Distinct builder k (x.advance ms) := by
  induction ms generalizing x with
  | zero => exact ⟨rfl, h⟩
  | succ ms ih =>
    obtain ⟨htick, hdistinct⟩ := lane_tick h
    obtain ⟨hlane, hlater⟩ := ih hdistinct
    refine ⟨hlane.trans ?_, hlater⟩
    rw [htick]
    rfl

/-- The step does not wait for all resources, and adds no commands to the script. -/
def Step.Plain : Step → Prop
  | .settle _ => False
  | .script more => more.Permits fun _ => False
  | _ => True

/-- The commands that a step gives by itself. -/
def Step.commands : Step → List Outbox.Command
  | .ask c => [c]
  | .batch cs => cs
  | _ => []

/-- **A step of an exchange, seen from a resource, is a step of its lane.** -/
theorem lane_run {step : Step} (hplain : step.Plain) {x : Exchange} (h : Distinct builder k x)
    (hcs : ∀ c ∈ step.commands, ∀ j, c.resource? = some j → ¬builder.Clash j k) :
    (x.run step).1.lane k = (x.lane k).run step ∧ Distinct builder k (x.run step).1 := by
  cases step with
  | ask c =>
    obtain ⟨hlane, hdistinct⟩ := lane_drain (h.ask (hcs c (List.mem_singleton.2 rfl)))
    refine ⟨hlane.trans ?_, hdistinct⟩
    rw [lane_ask h.orderly]
    rfl
  | batch cs =>
    obtain ⟨hasked, hdistinct⟩ := lane_askAll h hcs
    obtain ⟨hlane, hdistinct⟩ := lane_drain hdistinct
    refine ⟨hlane.trans ?_, hdistinct⟩
    rw [hasked]
    rfl
  | advance ms => exact lane_advance ms h
  | settle ms => exact hplain.elim
  | script more =>
    refine ⟨?_, h.of_marks ⟨rfl, rfl, rfl, rfl⟩ (.refl _) (h.silent.append hplain)⟩
    show lane k { x with script := x.script ++ more } = _
    unfold lane
    rw [Script.outcomesFor_append]
    rfl
  | closed => exact ⟨rfl, h⟩

end Steps

end Exchange

end RoutingSessions
