/-
  RoutingSessions.Proofs.Exchange.Recovery — recovery within one delay.

  However long an engine was out of order, whatever was asked meanwhile: at rest every
  order that is not done with is asleep, and wakes up after one delay at the latest.  If
  from then on the engine acknowledges what it is sent, and nothing more is asked, each
  of these orders is sent once, when it is due, and after one delay nothing is left.

  That holds of attempts that overlap (`RoutingSessions.Proofs.Traffic.Recovery`), under
  conditions on the events.  In a run, that the engine acknowledges is a condition on the
  attempts made, not on the script: what the script holds for entities that are never
  tried does not matter.  So it is shown here of the attempts made so far, at every point
  of the way, that smooth events lead there as long as all of them went smoothly.

  Main statements:
    * `run_induction` — what all that happens in quiet steps preserves, they preserve.
    * `Recovering.process` — what is done next is made of smooth events.
    * `recovery_within_delay` — what is left to do at rest, and how it is done.
-/
import Mathlib.Algebra.GroupWithZero.Nat
import RoutingSessions.Proofs.Exchange.Lane
import RoutingSessions.Proofs.Exchange.Traffic
import RoutingSessions.Proofs.Traffic.Recovery

namespace RoutingSessions

namespace Exchange

/-! ## §1. Steps that begin at rest. -/

theorem askAll_induction {P : Exchange → Prop} {cs : List Outbox.Command}
    (ask : ∀ c ∈ cs, ∀ x, P x → P (x.ask c).1) {x : Exchange} (hx : P x) :
    P (x.askAll cs).1 := by
  induction cs generalizing x with
  | nil => exact hx
  | cons c cs ih =>
    show P ((x.ask c).1.askAll cs).1
    exact ih (fun d hd => ask d (List.mem_cons_of_mem _ hd)) (ask c List.mem_cons_self x hx)

section Induction

variable {P : Exchange → Prop}
  (process : ∀ x i, P x → x.outbox.next? = some i → P (x.process i))
include process

theorem drain_induction {x : Exchange} (hx : P x) : P x.drain := by
  have hloop : ∀ fuel (y : Exchange), P y → P (drainWith fuel y) := by
    intro fuel
    induction fuel with
    | zero => exact fun y hy => hy
    | succ fuel ih =>
      intro y hy
      unfold drainWith
      split
      next => exact hy
      next i hi => exact ih _ (process y i hy hi)
  exact hloop x.work x hx

variable (tick : ∀ x, P x → x.outbox.next? = none →
  P { x with outbox := { x.outbox with clock := x.outbox.clock + 1 } })
include tick

theorem tick_induction {x : Exchange} (hx : P x) (hrest : x.outbox.next? = none) : P x.tick :=
  drain_induction process (tick x hx hrest)

theorem advance_induction (ms : Nat) {x : Exchange} (hx : P x) (hrest : x.outbox.next? = none) :
    P (x.advance ms) := by
  induction ms generalizing x with
  | zero => exact hx
  | succ ms ih =>
    show P (x.tick.advance ms)
    exact ih (tick_induction process tick hx hrest) (next?_drain _)

theorem settle_induction (ms : Nat) {x : Exchange} (hx : P x) (hrest : x.outbox.next? = none) :
    P (settle ms x).1 := by
  induction ms generalizing x with
  | zero => exact hx
  | succ ms ih =>
    unfold settle
    split
    next => exact hx
    next => exact ih (tick_induction process tick hx hrest) (next?_drain _)

/-- **What all that happens in steps preserves, runs preserve.**  The clock only moves when the
exchange is at rest. -/
theorem run_induction (script : ∀ x more, P x → P { x with script := x.script ++ more })
    {steps : List Step}
    (ask : ∀ step ∈ steps, ∀ c ∈ step.commands, ∀ x, P x → P (x.ask c).1)
    {x : Exchange} (hx : P x) (hrest : x.outbox.next? = none) : P (runAll steps x).1 := by
  have hstep : ∀ step ∈ steps, ∀ y, P y → y.outbox.next? = none → P (y.run step).1 := by
    intro step hmem y hy hidle
    have hask := ask step hmem
    cases step with
    | ask c => exact drain_induction process (hask c (List.mem_singleton.2 rfl) y hy)
    | batch cs => exact drain_induction process (askAll_induction hask hy)
    | advance ms => exact advance_induction process tick ms hy hidle
    | settle ms => exact settle_induction process tick ms hy hidle
    | script more => exact script y more hy
    | closed => exact hy
  clear ask
  induction steps generalizing x with
  | nil => exact hx
  | cons step steps ih =>
    show P (runAll steps (x.run step).1).1
    exact ih (hstep step List.mem_cons_self x hx hrest) (next?_run hrest step)
      (fun s hs => hstep s (List.mem_cons_of_mem _ hs))

end Induction

/-! ## §2. Smooth attempts. -/

/-- The step asks for nothing but how much is pending. -/
def Step.Quiet (step : Step) : Prop := ∀ c ∈ step.commands, c = .count

instance (step : Step) : Decidable step.Quiet :=
  inferInstanceAs (Decidable (∀ c ∈ step.commands, c = .count))

end Exchange

/-- The attempt was acknowledged, and nothing was asked meanwhile but how much is pending. -/
structure Sent.Smooth (s : Sent) : Prop where
  acknowledged : s.reply.acknowledged = true
  undisturbed : ∀ a ∈ s.during.getD [], ∃ n, a = .count n

/-- What is answered with a number is the question how much is pending. -/
theorem Outbox.eq_count_of_answer {c : Command} {o : Outbox} {n : Nat}
    (h : (o.run c).2 = .count n) : c = .count := by
  cases c with
  | submit change =>
    simp only [run] at h
    split at h
    · cases h
    · cases h
  | relay change => cases h
  | shutDown => cases h
  | count => rfl

theorem Outbox.eq_count_of_answers {cs : List Command} {o : Outbox}
    (h : ∀ a ∈ (o.runAll cs).2, ∃ n, a = .count n) : ∀ c ∈ cs, c = .count := by
  induction cs generalizing o with
  | nil => exact fun c hc => nomatch hc
  | cons c cs ih =>
    have hcons : (o.runAll (c :: cs)).2 = (o.run c).2 :: ((o.run c).1.runAll cs).2 := rfl
    rw [hcons] at h
    intro d hd
    rcases List.mem_cons.1 hd with rfl | hd
    · obtain ⟨n, hn⟩ := h _ List.mem_cons_self
      exact eq_count_of_answer hn
    · exact ih (fun a ha => h a (List.mem_cons_of_mem _ ha)) d hd

namespace Exchange

open Traffic (Path Sound)

/-- While a smooth attempt is under way, nothing is asked but how much is pending. -/
theorem eq_count_of_smooth {x : Exchange} {i : Intent} (h : (x.record i).Smooth) :
    ∀ c ∈ (x.outcome i).commands, c = .count := by
  cases hd : (x.outcome i).during with
  | none =>
    have hnone : (x.outcome i).commands = [] := by
      unfold Outcome.commands
      rw [hd]
      rfl
    rw [hnone]
    exact fun c hc => nomatch hc
  | some cs =>
    refine Outbox.eq_count_of_answers (o := x.outbox) fun a ha => ?_
    refine h.undisturbed a ?_
    show a ∈ Option.getD (if (x.outcome i).during.isSome then _ else none) []
    rw [hd]
    exact ha

/-! ## §3. What is left, and what was sent. -/

/-- The times at which the orders left are due. -/
def alarms (x : Exchange) : List (Nat × Order) := x.outbox.intents.map fun i => (i.due, i.order)

/-- The event is smooth, and time passes only when nothing is left to do. -/
def SmoothAndPatient (e : Traffic.Event) (t : Traffic) : Prop := e.Smooth ∧ e.Patient t

/-- As long as all attempts went smoothly, smooth events lead from the one state to the other. -/
def Recovering (x y : Exchange) : Prop :=
  ∃ new, y.sent = x.sent ++ new
    ∧ ((∀ s ∈ new, s.Smooth) → ∃ es, Path SmoothAndPatient es x.traffic y.traffic)

namespace Recovering

variable {x y : Exchange}

theorem refl (x : Exchange) : Recovering x x :=
  ⟨[], (List.append_nil _).symm, fun _ => ⟨[], .nil⟩⟩

/-- A smooth attempt is made of smooth events. -/
theorem path_attempt (hy : Sound y.traffic) {i : Intent} (hi : y.outbox.next? = some i)
    (hc : i.canceled = false) (hsmooth : (y.record i).Smooth) :
    ∃ es, Path SmoothAndPatient es y.traffic (y.attempt i).traffic := by
  have hstarts : Path SmoothAndPatient _ y.traffic (y.during i (y.outcome i).commands) :=
    path_during hy hi hc ⟨trivial, nofun⟩ fun c hmem _ => ⟨eq_count_of_smooth hsmooth c hmem, nofun⟩
  have hends : Path SmoothAndPatient [.finish i (y.outcome i).reply]
      (y.during i (y.outcome i).commands) (y.attempt i).traffic := by
    rw [← finish_during]
    exact .single ⟨hsmooth.acknowledged, nofun⟩ (.finish _ (underWay_during i _ y))
  exact ⟨_, hstarts.append hends⟩

/-- **Whatever is done next is made of smooth events**, if all went smoothly. -/
theorem process (h : Recovering x y) (hx : Sound x.traffic) {i : Intent}
    (hi : y.outbox.next? = some i) : Recovering x (y.process i) := by
  obtain ⟨new, hsent, hall⟩ := h
  unfold Exchange.process
  split
  next hc =>
    refine ⟨new, hsent, fun hsmooth => ?_⟩
    obtain ⟨es, hes⟩ := hall hsmooth
    have hforget : Path SmoothAndPatient [.forget i] y.traffic (y.traffic.forget i) :=
      .single ⟨trivial, nofun⟩ (.forget (mem_of_next? hi) hc (not_underWay_traffic y _))
    exact ⟨_, hes.append hforget⟩
  next hc =>
    refine ⟨new ++ [y.record i], ?sent, fun hsmooth => ?path⟩
    case sent => rw [sent_attempt_record, hsent, List.append_assoc]
    case path =>
      obtain ⟨es, hes⟩ := hall fun s hs => hsmooth s (List.mem_append_left _ hs)
      obtain ⟨last, hlast⟩ := path_attempt (hx.path hes) hi (Bool.eq_false_iff.2 hc)
        (hsmooth _ (List.mem_append_right _ (List.mem_singleton.2 rfl)))
      exact ⟨_, hes.append hlast⟩

theorem tick (h : Recovering x y) (hrest : y.outbox.next? = none) :
    Recovering x { y with outbox := { y.outbox with clock := y.outbox.clock + 1 } } := by
  obtain ⟨new, hsent, hall⟩ := h
  refine ⟨new, hsent, fun hsmooth => ?_⟩
  obtain ⟨es, hes⟩ := hall hsmooth
  have hpass : Path SmoothAndPatient [.tick] y.traffic y.traffic.tick :=
    .single ⟨trivial, fun _ => atRest_of_next? hrest⟩ .tick
  exact ⟨_, hes.append hpass⟩

theorem runAll (h : Recovering x y) (hx : Sound x.traffic) (hrest : y.outbox.next? = none)
    {more : List Step} (hquiet : ∀ step ∈ more, step.Quiet) :
    Recovering x (runAll more y).1 := by
  refine run_induction (fun z i hz hi => hz.process hx hi) (fun z hz hidle => hz.tick hidle)
    (fun z script hz => hz) (fun step hstep c hc z hz => ?ask) h hrest
  case ask =>
    rw [hquiet step hstep c hc]
    exact hz

end Recovering

/-! ## §4. Recovery within one delay. -/

theorem clock_drain (x : Exchange) : x.drain.outbox.clock = x.outbox.clock := by
  refine drain_induction (P := fun y => y.outbox.clock = x.outbox.clock) (fun y i hy _ => ?_) rfl
  unfold process
  split
  next => exact hy
  next =>
    rw [outbox_attempt, Outbox.clock_conclude, asked, Outbox.clock_runAll]
    exact hy

theorem clock_advance (ms : Nat) (x : Exchange) :
    (x.advance ms).outbox.clock = x.outbox.clock + ms := by
  induction ms generalizing x with
  | zero => rfl
  | succ ms ih =>
    have htick : x.tick.outbox.clock = x.outbox.clock + 1 := clock_drain _
    show (x.tick.advance ms).outbox.clock = _
    rw [ih, htick]
    omega

/-- Waiting several times is waiting for the sum of the times. -/
theorem clock_waits (waits : List Nat) (x : Exchange) :
    (runAll (waits.map .advance) x).1.outbox.clock = x.outbox.clock + waits.sum := by
  induction waits generalizing x with
  | nil => rfl
  | cons ms waits ih =>
    show (runAll (waits.map .advance) (x.advance ms)).1.outbox.clock = _
    rw [ih, clock_advance, List.sum_cons, Nat.add_assoc]

/-- **Recovery within one delay.**  After every run, every order that is not done with is
pending: it was tried, and its next attempt comes later, but after the delay at the latest.  If
from then on nothing is asked but how much is pending, and every attempt is acknowledged, then
when the delay has passed, in however many steps, each of these orders was sent once, at the time
for which it was put off, and nothing else was sent.  They were the orders last accepted for their
resources, and nothing is left to do. -/
theorem recovery_within_delay (settings : CommandSettings) (builder : CommandBuilder)
    (script : Script) (steps : List Step) :
    let x := (runAll steps (start (.new settings builder) script)).1
    x.outbox.settings = settings
      ∧ (∀ i ∈ x.outbox.intents, x.outbox.Asleep i)
      ∧ (∀ waits : List Nat,
          (runAll (waits.map .advance) x).1.outbox.clock = x.outbox.clock + waits.sum)
      ∧ ∀ more : List Step, (∀ step ∈ more, step.Quiet) →
          let y := (runAll more x).1
          x.outbox.clock + settings.retryDelay ≤ y.outbox.clock →
          (∀ s ∈ y.sent.drop x.sent.length, s.Smooth) →
          ∃ new, y.sent = x.sent ++ new
            ∧ (new.map fun s => (s.time, s.order)).Perm x.alarms
            ∧ (∀ s ∈ new, x.outbox.latest? s.order.resource = some s.order)
            ∧ y.outbox.intents = [] ∧ y.outbox.pendingCount = 0 := by
  intro x
  have hfirst : Sound (start (.new settings builder) script).traffic :=
    sound_start settings builder script
  have hrest : x.outbox.next? = none := next?_runAll (next?_start settings builder script) steps
  obtain ⟨past, hpath⟩ := reaches_of_leads hfirst (leads_steps steps _)
  obtain ⟨hasleep, hrecovery⟩ := Traffic.recovery_of_path hpath (atRest_of_next? hrest)
  refine ⟨(Traffic.punctual_of_path hpath).settings_eq, hasleep, fun waits => clock_waits waits x,
    ?_⟩
  intro more hquiet y hlater hsmooth
  have hx : Sound x.traffic := hfirst.path hpath
  obtain ⟨new, hsent, hall⟩ := (Recovering.refl x).runAll hx hrest hquiet
  have hdrop : y.sent.drop x.sent.length = new := by
    show (runAll more x).1.sent.drop x.sent.length = new
    rw [hsent, List.drop_left]
  obtain ⟨es, hes⟩ := hall (hdrop ▸ hsmooth)
  obtain ⟨tried, hattempts, hperm, heach, hnil, hcount⟩ :=
    hrecovery es _ hes (atRest_of_next? (next?_runAll hrest more)) hlater
  -- what was tried is what was sent
  have htried : tried = new.map Attempt.ended := by
    have hall : y.sent.map Attempt.ended = x.sent.map Attempt.ended ++ tried := hattempts
    have hsent : y.sent = x.sent ++ new := hsent
    rw [hsent, List.map_append] at hall
    exact (List.append_cancel_left hall).symm
  rw [htried, List.map_map] at hperm
  refine ⟨new, hsent, hperm, fun s hs => ?_, hnil, hcount⟩
  exact (heach (.ended s) (by rw [htried]; exact List.mem_map_of_mem hs)).2

/-- The engine is silent at first, and breaks down. -/
def unwell : Script :=
  [("r::d::a", ⟨none, .silence⟩), ("r::d::b", ⟨none, .breakdown⟩),
    ("r::d::a", ⟨none, .response (.error "busy")⟩)]

/-- Of two sessions that are created one is deleted again, a while later; no attempt succeeds
before the engine has recovered. -/
theorem recovery_within_delay_unwell :
    let settings : CommandSettings := { targetRouter := "r", retryDelay := 2 }
    let builder : CommandBuilder :=
      Namer.builder
        ⟨"r", { domainRoute := "d", sessionName := "\x7btopic\x7d", sessionConfig := "c" }⟩
    let k : Resource := .ofSession ⟨"a", ""⟩
    let j : Resource := .ofSession ⟨"b", ""⟩
    let steps : List Step := [.batch [.submit ⟨.create, k⟩, .submit ⟨.create, j⟩], .advance 1,
      .ask (.submit ⟨.delete, k⟩)]
    let more : List Step := [.advance 1, .ask .count, .advance 1]
    let x := (runAll steps (start (.new settings builder) unwell)).1
    let y := (runAll more x).1
    (∀ step ∈ more, step.Quiet) ∧ x.outbox.clock + settings.retryDelay ≤ y.outbox.clock
      ∧ (∀ s ∈ y.sent.drop x.sent.length, s.Smooth)
      ∧ x.alarms.map (fun a => (a.1, a.2.ticket)) = [(2, 1), (3, 2)]
      ∧ ∃ new, y.sent = x.sent ++ new ∧ (new.map fun s => (s.time, s.order)).Perm x.alarms
          ∧ y.outbox.pendingCount = 0 := by
  intro settings builder k j steps more x y
  have hquiet : ∀ step ∈ more, step.Quiet := by decide
  have hsmooth : ∀ s ∈ y.sent.drop x.sent.length, s.Smooth := by
    have hgood : ∀ s ∈ y.sent.drop x.sent.length,
        s.reply.acknowledged = true ∧ s.during = none := by
      decide +kernel
    intro s hs
    obtain ⟨hack, hnone⟩ := hgood s hs
    exact ⟨hack, by rw [hnone]; exact fun a ha => nomatch ha⟩
  obtain ⟨_, _, _, hrecovery⟩ := recovery_within_delay settings builder unwell steps
  obtain ⟨new, hsent, hperm, _, _, hcount⟩ := hrecovery more hquiet (by decide +kernel) hsmooth
  exact ⟨hquiet, by decide +kernel, hsmooth, by decide +kernel, new, hsent, hperm, hcount⟩

end Exchange

end RoutingSessions
