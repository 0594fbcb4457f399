/-
  RoutingSessions.Proofs.Exchange.Moves — runs of an exchange, taken apart.

  A step of a run does many things: it asks, lets time pass, and drains what can be
  done at every instant.  A move is one of these things.  Every run is a sequence of
  moves, so what every move preserves holds wherever a run leads, also in the middle
  of a step.

  Moves are told apart by the commands that they may give, directly or while an
  attempt is under way; a run that never shuts down, or one whose script gives no
  commands, is a run with fewer moves.

  Main statements:
    * `leads_run`, `leads_runAll` — a step, and a run, is made of moves.
    * `Leads.preserves` — what every move preserves, every run preserves.
-/
import Mathlib.Logic.Relation
import RoutingSessions.Exchange

namespace RoutingSessions

/-! ## §1. Which commands are given. -/

/-- Every command in the script is one that `ok` allows. -/
def Script.Permits (ok : Outbox.Command → Prop) (script : Script) : Prop :=
  ∀ line ∈ script, ∀ c ∈ line.2.commands, ok c

namespace Script

variable {ok : Outbox.Command → Prop}

theorem Permits.append {first second : Script} (hf : first.Permits ok)
    (hs : second.Permits ok) : (show Script from first ++ second).Permits ok := by
  intro line hmem
  rcases List.mem_append.1 hmem with hmem | hmem
  · exact hf line hmem
  · exact hs line hmem

/-- What is taken from a script, and what is left of it, gives no other commands. -/
theorem Permits.take {script : Script} (h : script.Permits ok) (entity : String) :
    (∀ c ∈ (script.take entity).1.commands, ok c) ∧ (script.take entity).2.Permits ok := by
  induction script with
  | nil => exact ⟨fun c hc => (List.not_mem_nil hc).elim, h⟩
  | cons line lines ih =>
    have hlines : Permits ok lines := fun l hl => h l (List.mem_cons_of_mem _ hl)
    unfold Script.take
    -- the first line for the entity goes, and the lines before it stay
    by_cases he : line.1 = entity
    · rw [if_pos he]
      exact ⟨h line List.mem_cons_self, hlines⟩
    · rw [if_neg he]
      obtain ⟨hcommands, hrest⟩ := ih hlines
      refine ⟨hcommands, fun l hl => ?_⟩
      rcases List.mem_cons.1 hl with rfl | hl
      · exact h l List.mem_cons_self
      · exact hrest l hl

end Script

namespace Exchange

/-- Every command that the step gives is one that `ok` allows. -/
def Step.Permits (ok : Outbox.Command → Prop) : Step → Prop
  | .ask c => ok c
  | .batch cs => ∀ c ∈ cs, ok c
  | .advance _ => True
  | .settle _ => True
  | .script more => more.Permits ok
  | .closed => True

theorem Step.permits_all (step : Step) : step.Permits fun _ => True := by
  cases step <;> simp [Step.Permits, Script.Permits]

/-! ## §2. Runs. -/

/-- Takes steps one after the other. -/
def runAll : List Step → Exchange → Exchange × List Result
  | [], x => (x, [])
  | step :: steps, x =>
    let first := x.run step
    let rest := runAll steps first.1
    (rest.1, first.2 :: rest.2)

theorem runAll_append (first second : List Step) (x : Exchange) :
    runAll (first ++ second) x
      = ((runAll second (runAll first x).1).1,
          (runAll first x).2 ++ (runAll second (runAll first x).1).2) := by
  induction first generalizing x with
  | nil => rfl
  | cons step steps ih =>
    show ((runAll (steps ++ second) (x.run step).1).1,
      (x.run step).2 :: (runAll (steps ++ second) (x.run step).1).2) = _
    rw [ih]
    rfl

theorem length_results_runAll (steps : List Step) (x : Exchange) :
    (runAll steps x).2.length = steps.length := by
  induction steps generalizing x with
  | nil => rfl
  | cons step steps ih => exact congrArg (· + 1) (ih (x.run step).1)

theorem drainWith_of_next? {x : Exchange} (fuel : Nat) (hx : x.outbox.next? = none) :
    drainWith fuel x = x := by
  cases fuel with
  | zero => rfl
  | succ fuel =>
    unfold drainWith
    rw [hx]

theorem drainWith_of_next?_eq_some {x : Exchange} (fuel : Nat) {i : Intent}
    (hi : x.outbox.next? = some i) : drainWith (fuel + 1) x = drainWith fuel (x.process i) := by
  rw [drainWith, hi]

/-! ## §3. Moves. -/

/-- One thing that happens in an exchange. -/
inductive Move (ok : Outbox.Command → Prop) : Exchange → Exchange → Prop where
  /-- A command is given. -/
  | ask {c : Outbox.Command} {x : Exchange} : ok c → Move ok x (x.ask c).1
  /-- A canceled order is forgotten. -/
  | forget {i : Intent} {x : Exchange} : x.outbox.next? = some i → i.canceled = true →
      Move ok x { x with outbox := x.outbox.forget i.order.ticket }
  /-- A due order is tried. -/
  | attempt {i : Intent} {x : Exchange} : x.outbox.next? = some i → i.canceled = false →
      (∀ c ∈ (x.script.take i.order.request.entity).1.commands, ok c) → Move ok x (x.attempt i)
  /-- A millisecond passes. -/
  | tick {x : Exchange} :
      Move ok x { x with outbox := { x.outbox with clock := x.outbox.clock + 1 } }
  /-- The script is added to. -/
  | script {more : Script} {x : Exchange} : more.Permits ok →
      Move ok x { x with script := x.script ++ more }

/-- From a state whose script is permitted, moves lead to another such state. -/
def Leads (ok : Outbox.Command → Prop) (x y : Exchange) : Prop :=
  x.script.Permits ok → Relation.ReflTransGen (Move ok) x y ∧ y.script.Permits ok

namespace Leads

variable {ok : Outbox.Command → Prop} {x y z : Exchange}

theorem refl (ok : Outbox.Command → Prop) (x : Exchange) : Leads ok x x := fun h => ⟨.refl, h⟩

theorem trans (hxy : Leads ok x y) (hyz : Leads ok y z) : Leads ok x z := by
  intro h
  obtain ⟨hfirst, hy⟩ := hxy h
  obtain ⟨hsecond, hz⟩ := hyz hy
  exact ⟨hfirst.trans hsecond, hz⟩

/-- **What every move preserves holds wherever moves lead.** -/
theorem preserves {P : Exchange → Prop} (hmove : ∀ x y, P x → Move ok x y → P y)
    (hleads : Leads ok x y) (hscript : x.script.Permits ok) (hx : P x) : P y := by
  have hmoves := (hleads hscript).1
  -- induction on the moves, from the first one on
  clear hleads hscript
  induction hmoves with
  | refl => exact hx
  | tail _ hlast ih => exact hmove _ _ ih hlast

end Leads

/-! ## §4. Runs are made of moves. -/

section Runs

variable {ok : Outbox.Command → Prop}

theorem leads_ask {c : Outbox.Command} (hc : ok c) (x : Exchange) : Leads ok x (x.ask c).1 :=
  fun h => ⟨.single (.ask hc), h⟩

theorem leads_askAll {cs : List Outbox.Command} (hcs : ∀ c ∈ cs, ok c) (x : Exchange) :
    Leads ok x (x.askAll cs).1 := by
  induction cs generalizing x with
  | nil => exact .refl ok x
  | cons c cs ih =>
    exact (leads_ask (hcs c List.mem_cons_self) x).trans
      (ih (fun d hd => hcs d (List.mem_cons_of_mem _ hd)) (x.ask c).1)

theorem leads_attempt {x : Exchange} {i : Intent} (hi : x.outbox.next? = some i)
    (hc : i.canceled = false) : Leads ok x (x.attempt i) := by
  intro h
  obtain ⟨hcommands, hrest⟩ := h.take i.order.request.entity
  exact ⟨.single (.attempt hi hc hcommands), hrest⟩

theorem leads_process {x : Exchange} {i : Intent} (hi : x.outbox.next? = some i) :
    Leads ok x (x.process i) := by
  unfold process
  cases hc : i.canceled with
  | true => exact fun h => ⟨.single (.forget hi hc), h⟩
  | false => exact leads_attempt hi hc

theorem leads_drainWith (fuel : Nat) (x : Exchange) : Leads ok x (drainWith fuel x) := by
  -- each unit of fuel is one move, until nothing is left to do
  induction fuel generalizing x with
  | zero => exact .refl ok x
  | succ fuel ih =>
    unfold drainWith
    split
    next => exact .refl ok x
    next i hi => exact (leads_process hi).trans (ih _)

theorem leads_drain (x : Exchange) : Leads ok x x.drain := leads_drainWith x.work x

theorem leads_tick (x : Exchange) : Leads ok x x.tick := by
  have hpass : Leads ok x { x with outbox := { x.outbox with clock := x.outbox.clock + 1 } } :=
    fun h => ⟨.single .tick, h⟩
  exact hpass.trans (leads_drain _)

theorem leads_advance (ms : Nat) (x : Exchange) : Leads ok x (x.advance ms) := by
  induction ms generalizing x with
  | zero => exact .refl ok x
  | succ ms ih => exact (leads_tick x).trans (ih x.tick)

theorem leads_settle (ms : Nat) (x : Exchange) : Leads ok x (settle ms x).1 := by
  induction ms generalizing x with
  | zero => exact .refl ok x
  | succ ms ih =>
    unfold settle
    split
    next => exact .refl ok x
    next => exact (leads_tick x).trans (ih x.tick)

/-- **A step is made of moves.** -/
theorem leads_run {step : Step} (hstep : step.Permits ok) (x : Exchange) :
    Leads ok x (x.run step).1 := by
  cases step with
  | ask c => exact (leads_ask hstep x).trans (leads_drain _)
  | batch cs => exact (leads_askAll hstep x).trans (leads_drain _)
  | advance ms => exact leads_advance ms x
  | settle ms => exact leads_settle ms x
  | script more => exact fun h => ⟨.single (.script hstep), h.append hstep⟩
  | closed => exact .refl ok x

/-- **A run is made of moves.** -/
theorem leads_runAll {steps : List Step} (hsteps : ∀ step ∈ steps, step.Permits ok)
    (x : Exchange) : Leads ok x (runAll steps x).1 := by
  induction steps generalizing x with
  | nil => exact .refl ok x
  | cons step steps ih =>
    exact (leads_run (hsteps step List.mem_cons_self) x).trans
      (ih (fun s hs => hsteps s (List.mem_cons_of_mem _ hs)) _)

/-- Whatever its commands are. -/
theorem leads_steps (steps : List Step) (x : Exchange) :
    Leads (fun _ => True) x (runAll steps x).1 :=
  leads_runAll (fun step _ => Step.permits_all step) x

end Runs

/-! ## §5. What was sent. -/

/-- An attempt for the order was answered with success. -/
def Acknowledged (x : Exchange) (order : Order) : Prop :=
  ∃ s ∈ x.sent, s.order = order ∧ s.reply.acknowledged = true

/-- The last attempt for a resource. -/
def lastSent? (x : Exchange) (k : Resource) : Option Sent :=
  (x.sent.filter (·.order.resource = k)).getLast?

theorem lastSent?_eq_none {x : Exchange} {k : Resource} :
    x.lastSent? k = none ↔ ∀ s ∈ x.sent, s.order.resource ≠ k := by
  unfold lastSent?
  rw [List.getLast?_eq_none_iff, List.filter_eq_nil_iff]
  simp

section Attempts

variable (i : Intent) (x : Exchange)

/-- The outcome of an attempt for an intent. -/
def outcome : Outcome := (x.script.take i.order.request.entity).1

/-- The outbox after what was asked of it while the attempt was under way. -/
def asked : Outbox := (x.outbox.runAll (x.outcome i).commands).1

theorem outbox_attempt : (x.attempt i).outbox = (x.asked i).conclude i (x.outcome i).reply := rfl

/-- What is kept of an attempt for an intent. -/
def record : Sent where
  time := x.outbox.clock
  order := i.order
  during := if (x.outcome i).during.isSome then some (x.outbox.runAll (x.outcome i).commands).2
    else none
  reply := (x.outcome i).reply

theorem sent_attempt_record : (x.attempt i).sent = x.sent ++ [x.record i] := rfl

end Attempts

end Exchange

end RoutingSessions
