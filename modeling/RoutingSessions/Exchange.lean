/-
  RoutingSessions.Exchange — an outbox and a scripted routing engine, on a clock of
  their own.

  Time passes only when it is told to.  At each instant everything that can be done is
  done, one thing after the other and older orders first: canceled orders are
  forgotten, and due orders are tried.  An attempt takes no time, but commands may
  come in while it is under way.  The script says how the attempts for an entity end;
  when it says nothing more, they are acknowledged.

  This is one schedule of many.  A commander with a task for each order makes attempts
  for different resources at the same time, and they end in any order, so how many
  attempts are under way at once and which resource is tried first are matters of the
  schedule.  What holds of every schedule is proved of traffic
  (`RoutingSessions.Traffic`), and an exchange is a case of it
  (`RoutingSessions.Proofs.Exchange.Traffic`).

  Main statements:
    * `next?_drain` — draining goes on until there is nothing left to do, which is
      not evident from the bound on the number of its steps.
-/
import RoutingSessions.Outbox

namespace RoutingSessions

/-! ## Scripts -/

/-- How an attempt goes. -/
structure Outcome where
  /-- What is asked of the outbox while the attempt is under way, if the attempt leaves time for
  it. -/
  during : Option (List Outbox.Command)
  reply : Reply
deriving DecidableEq, Inhabited

namespace Outcome

/-- The outcome of an attempt that the script says nothing about. -/
def acknowledged : Outcome := ⟨none, .response .ok⟩

/-- What is asked of the outbox while the attempt is under way. -/
def commands (o : Outcome) : List Outbox.Command := o.during.getD []

end Outcome

/-- How attempts go, by entity, in the order in which they are used up. -/
abbrev Script := List (String × Outcome)

namespace Script

/-- The outcome of the next attempt for an entity, and the script without it. -/
def take (entity : String) : Script → Outcome × Script
  | [] => (.acknowledged, [])
  | line :: lines =>
    if line.1 = entity then (line.2, lines)
    else
      let found := take entity lines
      (found.1, line :: found.2)

/-- The weight of a script: one for each outcome, and one for each command in it. -/
def weight : Script → Nat
  | [] => 0
  | line :: lines => line.2.commands.length + 1 + weight lines

theorem weight_take (entity : String) (script : Script) :
    take entity script = (.acknowledged, script)
      ∨ (take entity script).2.weight + (take entity script).1.commands.length + 1
        = script.weight := by
  induction script with
  | nil => exact .inl rfl
  | cons line lines ih =>
    unfold take
    split
    · right
      simp only [weight]
      omega
    · rcases ih with h | h
      · left
        simp [h]
      · right
        simp only [weight]
        omega

end Script

/-! ## Exchanges -/

/-- An attempt that was made. -/
structure Sent where
  time : Nat
  order : Order
  /-- The answers to what was asked while the attempt was under way, if it left time for it. -/
  during : Option (List Outbox.Answer)
  reply : Reply
deriving DecidableEq

/-- An outbox and the engine that it talks to. -/
structure Exchange where
  outbox : Outbox
  script : Script
  /-- The attempts made, oldest first. -/
  sent : List Sent

namespace Exchange

/-- The exchange before anything happens. -/
def start (outbox : Outbox) (script : Script) : Exchange := ⟨outbox, script, []⟩

/-- Asks something of the outbox. -/
def ask (c : Outbox.Command) (x : Exchange) : Exchange × Outbox.Answer :=
  let done := x.outbox.run c
  ({ x with outbox := done.1 }, done.2)

/-- Asks several things of the outbox. -/
def askAll (cs : List Outbox.Command) (x : Exchange) : Exchange × List Outbox.Answer :=
  let done := x.outbox.runAll cs
  ({ x with outbox := done.1 }, done.2)

/-! ## One instant -/

/-- Tries an order. -/
def attempt (i : Intent) (x : Exchange) : Exchange :=
  let found := x.script.take i.order.request.entity
  let asked := x.outbox.runAll found.1.commands
  let answers := if found.1.during.isSome then some asked.2 else none
  ⟨asked.1.conclude i found.1.reply, found.2,
    x.sent ++ [⟨x.outbox.clock, i.order, answers, found.1.reply⟩]⟩

/-- Does what is to be done about an intent. -/
def process (i : Intent) (x : Exchange) : Exchange :=
  if i.canceled then { x with outbox := x.outbox.forget i.order.ticket } else x.attempt i

/-- Does up to `fuel` things that can be done now. -/
def drainWith : Nat → Exchange → Exchange
  | 0, x => x
  | fuel + 1, x =>
    match x.outbox.next? with
    | none => x
    | some i => drainWith fuel (x.process i)

/-- A bound on how many things can be done before time passes. -/
def work (x : Exchange) : Nat := x.script.weight + x.outbox.intents.length

/-- Does everything that can be done now. -/
def drain (x : Exchange) : Exchange := drainWith x.work x

/-! ## Time -/

/-- Lets a millisecond pass. -/
def tick (x : Exchange) : Exchange :=
  drain { x with outbox := { x.outbox with clock := x.outbox.clock + 1 } }

/-- Lets so many milliseconds pass. -/
def advance : Nat → Exchange → Exchange
  | 0, x => x
  | n + 1, x => advance n x.tick

/-- Lets time pass until nothing is pending, for so many milliseconds at most; says whether
nothing is. -/
def settle : Nat → Exchange → Exchange × Bool
  | 0, x => (x, x.outbox.pendingCount = 0)
  | n + 1, x => if x.outbox.pendingCount = 0 then (x, true) else settle n x.tick

/-! ## Steps -/

/-- A step of a run. -/
inductive Step where
  | ask (c : Outbox.Command)
  /-- Asks several things before anything else is done. -/
  | batch (cs : List Outbox.Command)
  | advance (ms : Nat)
  | settle (ms : Nat)
  /-- Adds to the script. -/
  | script (more : Script)
  /-- Asks whether the outbox is shut down and done. -/
  | closed
deriving DecidableEq

/-- What a step gives. -/
inductive Result where
  | answer (a : Outbox.Answer)
  | answers (l : List Outbox.Answer)
  | done
  | settled (b : Bool)
  | closed (ended isShutDown : Bool)
deriving DecidableEq

/-- Takes a step, and does everything that can be done then. -/
def run (step : Step) (x : Exchange) : Exchange × Result :=
  match step with
  | .ask c =>
    let done := x.ask c
    (done.1.drain, .answer done.2)
  | .batch cs =>
    let done := x.askAll cs
    (done.1.drain, .answers done.2)
  | .advance ms => (x.advance ms, .done)
  | .settle ms =>
    let done := settle ms x
    (done.1, .settled done.2)
  | .script more => ({ x with script := x.script ++ more }, .done)
  | .closed => (x, .closed (x.outbox.isShutDown && x.outbox.intents.isEmpty) x.outbox.isShutDown)

/-! ## Draining comes to an end -/

theorem mem_of_next? {o : Outbox} {i : Intent} (h : o.next? = some i) : i ∈ o.intents :=
  List.mem_of_find?_eq_some h

@[simp] theorem length_intents_postpone (ticket : Nat) (o : Outbox) :
    (o.postpone ticket).intents.length = o.intents.length := by
  simp [Outbox.postpone]

theorem length_intents_conclude_le (i : Intent) (reply : Reply) (o : Outbox) :
    (o.conclude i reply).intents.length ≤ o.intents.length := by
  have hf : ∀ (p : Outbox), (p.forget i.order.ticket).intents.length ≤ p.intents.length :=
    fun p => List.length_filter_le _ _
  unfold Outbox.conclude
  split
  · exact hf _
  · cases reply with
    | response r =>
      simp only
      split
      · exact hf _
      · simp [Outbox.fail, Outbox.note]
    | silence => simp [Outbox.fail, Outbox.note]
    | breakdown => simp [Outbox.breakDown, Outbox.note]

theorem length_intents_conclude_ok_lt {o : Outbox} {i : Intent} (h : i ∈ o.intents) :
    (o.conclude i (.response .ok)).intents.length < o.intents.length := by
  unfold Outbox.conclude
  split
  · exact Outbox.length_forget_lt (o := Outbox.note _ _) h
  · simp only [Response.ok, if_true]
    exact Outbox.length_forget_lt (o := Outbox.note _ _) h

theorem work_process_lt {x : Exchange} {i : Intent} (h : x.outbox.next? = some i) :
    (x.process i).work < x.work := by
  have hi := mem_of_next? h
  unfold process
  split
  · have := Outbox.length_forget_lt hi
    simp only [work]
    omega
  · unfold attempt work
    rcases Script.weight_take i.order.request.entity x.script with hs | hs
    · have := length_intents_conclude_ok_lt hi
      simp only [hs, Outcome.acknowledged, Outcome.commands, Option.getD, Outbox.runAll]
      omega
    · have h1 := Outbox.length_intents_runAll_le
        (x.script.take i.order.request.entity).1.commands x.outbox
      have h2 := length_intents_conclude_le i (x.script.take i.order.request.entity).1.reply
        (x.outbox.runAll (x.script.take i.order.request.entity).1.commands).1
      simp only
      omega

theorem next?_drainWith {fuel : Nat} {x : Exchange} (h : x.work ≤ fuel) :
    (drainWith fuel x).outbox.next? = none := by
  induction fuel generalizing x with
  | zero =>
    cases hn : x.outbox.next? with
    | none => simpa [drainWith] using hn
    | some i =>
      have := work_process_lt hn
      omega
  | succ fuel ih =>
    unfold drainWith
    split
    · assumption
    · rename_i i hn
      have := work_process_lt hn
      exact ih (by omega)

theorem next?_drain (x : Exchange) : x.drain.outbox.next? = none :=
  next?_drainWith (Nat.le_refl _)

end Exchange

end RoutingSessions
