/-
  RoutingSessions.Proofs.Pipeline.Convergence — from what is live to what the engine
  was told.

  A run is quiet if nobody but the observer gives commands and the delivery is not
  closed.  Then every change that the observer reports arrives at the outbox, and is
  ordered there if there is a request for it.  The last change to a resource says
  whether it is live, because changes are a faithful log; the last order is the one
  that is pending or was acknowledged, because the last command wins.

  Main statements:
    * `Conforms.run` — every quiet step keeps observer and outbox in agreement.
    * `convergence` — what is live, what was ordered last and what was sent last agree
      after every quiet run.
-/
import RoutingSessions.Expression.Engine
import RoutingSessions.Pipeline
import RoutingSessions.Proofs.Exchange.LastCommand
import RoutingSessions.Proofs.Observer.Changelog
import RoutingSessions.Proofs.Outbox.Relaying

namespace RoutingSessions

/-! ## §1. An exchange that is left alone. -/

namespace Exchange

theorem sameBooks_move {x y : Exchange} (hmove : Move (· = .count) x y) :
    x.outbox.SameBooks y.outbox := by
  cases hmove with
  | ask hc =>
    subst hc
    exact .refl _
  | forget _ _ => exact ⟨rfl, rfl, rfl, rfl⟩
  | @attempt i _ _ _ hcommands =>
    have hasked : x.asked i = x.outbox := Outbox.runAll_count hcommands x.outbox
    rw [outbox_attempt, hasked]
    exact Outbox.sameBooks_conclude _ _ _
  | tick => exact ⟨rfl, rfl, rfl, rfl⟩
  | script _ => exact .refl _

theorem sameBooks_of_leads {x y : Exchange} (hxy : Leads (· = .count) x y)
    (hscript : x.script.Permits (· = .count)) : x.outbox.SameBooks y.outbox :=
  hxy.preserves (P := fun z => x.outbox.SameBooks z.outbox)
    (fun _ _ hz hmove => hz.trans (sameBooks_move hmove)) hscript (.refl _)

/-- Changes that are observed reach the outbox as commands. -/
theorem leads_relayAll (cs : List Change) (x : Exchange) :
    Leads (fun _ => True) x { x with outbox := x.outbox.relayAll cs } := by
  rw [← Outbox.runAll_relay]
  exact leads_askAll (fun _ _ => trivial) x

end Exchange

namespace Pipeline

/-! ## §2. Quiet runs. -/

/-- The step gives no command, and adds none to the script. -/
def Step.Quiet : Step → Prop
  | .line _ => True
  | .close => False
  | .exchange step => step.Permits (· = .count)

/-- Takes steps one after the other, the first one with the number `line`. -/
def runAll : Nat → List Step → Pipeline → Pipeline
  | _, [], p => p
  | line, step :: steps, p => runAll (line + 1) steps (p.run line step).1

/-- Observer and outbox agree on everything that can be created. -/
structure Conforms (s : Settings) (p : Pipeline) : Prop where
  sound : Traffic.Sound p.exchange.traffic
  script : p.exchange.script.Permits (· = .count)
  serves : p.exchange.outbox.Serves s.commands (namer s).builder
  isRunning : p.delivery.isRunning = true
  steady : ∀ sub ∈ p.delivery.subscribers, sub.breaksAt = none
  agrees : ∀ k create, (namer s).createRequest s.commands.targetRouter k = .ok create →
    (p.observer.roster.needs k = true ↔
      ∃ order, p.exchange.outbox.latest? k = some order ∧ order.request.action = .create)

theorem exists_start {m : Expression.Matcher} {s : Settings} (hvalid : s.validate m = .ok ())
    {script : Script} (hscript : script.Permits (· = .count)) :
    ∃ p, start m s script = .ok p ∧ Conforms s p ∧ p.exchange.outbox.ledger = [] := by
  obtain ⟨filters, hfilters⟩ := Settings.buildFilters_of_validate hvalid
  refine ⟨_, by rw [start, hfilters]; rfl, ?_, rfl⟩
  exact
    { sound := Traffic.sound_new s.commands (namer s).builder
      script := hscript
      serves := Outbox.serves_new s.commands (namer s).builder
      isRunning := rfl
      steady := by simp [Delivery.start, Subscriber.steady]
      agrees := by
        rintro ⟨session, route⟩ create _
        constructor
        · intro hneeds
          cases route <;> cases hneeds
        · rintro ⟨order, hlast, _⟩
          cases hlast }

namespace Conforms

variable {s : Settings} {p : Pipeline}

/-- Time and the engine change nothing that matters. -/
theorem exchange (h : Conforms s p) {y : Exchange}
    (hy : Exchange.Leads (· = .count) p.exchange y) : Conforms s { p with exchange := y } := by
  have hsame := Exchange.sameBooks_of_leads hy h.script
  exact
    { sound := Exchange.sound_leads h.sound h.script hy
      script := (hy h.script).2
      serves := h.serves.of_sameBooks hsame
      isRunning := h.isRunning
      steady := h.steady
      agrees := fun k create hcreate => by
        rw [h.agrees k create hcreate, Outbox.latest?_congr hsame.ledger k] }

theorem observe_eq (h : Conforms s p) (n : Notification) :
    (p.observe n).1 = ⟨(p.observer.notice n).1, (p.delivery.publish (p.observer.notice n).2).1,
      { p.exchange with outbox := p.exchange.outbox.relayAll (p.observer.notice n).2 }⟩ := by
  unfold Pipeline.observe
  simp only [h.isRunning, if_true]

/-- The last change to a resource is the last order, and says whether the resource is live. -/
theorem observe (h : Conforms s p) (n : Notification) : Conforms s (p.observe n).1 := by
  have hreplay : Catalog.replay (p.observer.notice n).2 p.observer.roster.live
      = some (p.observer.notice n).1.roster.live := Observer.replay_run (.notice n) p.observer
  have hpublish := Delivery.publish_of_steady h.isRunning h.steady (p.observer.notice n).2
  rw [h.observe_eq n]
  refine ⟨?sound, h.script, h.serves.relayAll _, ?isRunning, ?steady, ?agrees⟩
  case sound =>
    exact Exchange.sound_leads h.sound (fun _ _ _ _ => trivial) (Exchange.leads_relayAll _ _)
  case isRunning =>
    show (p.delivery.publish _).1.isRunning = true
    rw [hpublish]
    rfl
  case steady =>
    show ∀ sub ∈ (p.delivery.publish _).1.subscribers, sub.breaksAt = none
    rw [hpublish]
    intro sub hsub
    obtain ⟨old, hold, rfl⟩ := List.mem_map.1 hsub
    exact h.steady old hold
  case agrees =>
    intro k create hcreate
    have hlast := h.serves.latest?_relayAll (Namer.exists_request hcreate) (p.observer.notice n).2
    have hlive := Catalog.mem_of_replay hreplay k
    rw [Roster.mem_live, Roster.mem_live] at hlive
    show (p.observer.notice n).1.roster.needs k = true
      ↔ ∃ order, (p.exchange.outbox.relayAll (p.observer.notice n).2).latest? k = some order
          ∧ order.request.action = .create
    -- live by the last change, ordered by the last change
    rw [hlive]
    cases hchange : ((p.observer.notice n).2.filter (·.resource = k)).getLast? with
    | none =>
      rw [hchange] at hlast
      simp only at hlast ⊢
      rw [hlast, h.agrees k create hcreate]
    | some c =>
      rw [hchange] at hlast
      obtain ⟨order, horder, haction⟩ := hlast
      rw [horder]
      simp [haction]

theorem notice (h : Conforms s p) (n : Notification) : Conforms s (p.notice n).1 :=
  (h.observe n).exchange (Exchange.leads_drain _)

/-- **Every quiet step keeps observer and outbox in agreement.** -/
theorem run (h : Conforms s p) {step : Step} (hquiet : step.Quiet) (line : Nat) :
    Conforms s (p.run line step).1 := by
  cases step with
  | line text =>
    unfold Pipeline.run
    simp only
    split
    next => exact h
    next => exact h
    next n _ => exact h.notice n
  | close => exact hquiet.elim
  | exchange step => exact h.exchange (Exchange.leads_run hquiet p.exchange)

theorem runAll (h : Conforms s p) {steps : List Step} (hquiet : ∀ step ∈ steps, step.Quiet)
    (line : Nat) : Conforms s (Pipeline.runAll line steps p) := by
  induction steps generalizing p line with
  | nil => exact h
  | cons step steps ih =>
    exact ih (h.run (hquiet step List.mem_cons_self) line)
      (fun later hlater => hquiet later (List.mem_cons_of_mem _ hlater)) (line + 1)

/-! ## §3. What was never live. -/

/-- A step before and after which a resource is not live places no order for it. -/
theorem latest?_run_of_not_needs (h : Conforms s p) {step : Step} (hquiet : step.Quiet)
    {line : Nat} {k : Resource} (hbefore : ¬p.observer.roster.needs k = true)
    (hafter : ¬(p.run line step).1.observer.roster.needs k = true) :
    (p.run line step).1.exchange.outbox.latest? k = p.exchange.outbox.latest? k := by
  cases step with
  | line text =>
    unfold Pipeline.run at hafter ⊢
    simp only at hafter ⊢
    split
    next => rfl
    next => rfl
    next n hn =>
      rw [hn] at hafter
      simp only at hafter ⊢
      have hnone : ∀ c ∈ (p.observer.run (.notice n)).2, c.resource ≠ k :=
        Observer.resource_ne_of_not_needs hbefore hafter
      have hdrain := Exchange.sameBooks_of_leads
        (Exchange.leads_drain (p.observe n).1.exchange) (h.observe n).script
      show (p.observe n).1.exchange.drain.outbox.latest? k = _
      rw [Outbox.latest?_congr hdrain.ledger k, h.observe_eq n]
      exact Outbox.Serves.latest?_relayAll_of_ne hnone
  | close => exact hquiet.elim
  | exchange step =>
    have hsame := Exchange.sameBooks_of_leads (Exchange.leads_run hquiet p.exchange) h.script
    exact Outbox.latest?_congr hsame.ledger k

theorem latest?_runAll_of_not_needs (h : Conforms s p) {steps : List Step}
    (hquiet : ∀ step ∈ steps, step.Quiet) {line : Nat} {k : Resource}
    (hnever : ∀ n, ¬(Pipeline.runAll line (steps.take n) p).observer.roster.needs k = true) :
    (Pipeline.runAll line steps p).exchange.outbox.latest? k = p.exchange.outbox.latest? k := by
  induction steps generalizing p line with
  | nil => rfl
  | cons step steps ih =>
    have hstep := hquiet step List.mem_cons_self
    have hfirst := h.latest?_run_of_not_needs hstep (hnever 0) (hnever 1)
    -- never live in the run means never live after its first step
    rw [← hfirst]
    exact ih (h.run hstep line)
      (fun later hlater => hquiet later (List.mem_cons_of_mem _ hlater))
      (fun n => hnever (n + 1))

/-! ## §4. What was sent last. -/

/-- The last order for a resource carries the namer's request for what the order does. -/
theorem request_of_latest? (h : Conforms s p) {k : Resource} {order : Order}
    (hlast : p.exchange.outbox.latest? k = some order) :
    (namer s).builder.request s.commands.targetRouter order.request.action k
      = .ok order.request := by
  obtain ⟨hmem, hk⟩ := Outbox.mem_of_latest? hlast
  obtain ⟨a, ha⟩ := h.serves.genuine order hmem
  rw [hk] at ha
  rw [CommandBuilder.action_request ha]
  exact ha

/-- A resource with no pending order is live if its creation was sent last and acknowledged. -/
theorem needs_iff_lastSent? (h : Conforms s p) {k : Resource} {create : Request}
    (hcreate : (namer s).createRequest s.commands.targetRouter k = .ok create)
    (hidle : k ∉ p.exchange.outbox.pendingKeys) :
    p.observer.roster.needs k = true ↔
      ∃ sent, p.exchange.lastSent? k = some sent ∧ sent.order.request = create
        ∧ sent.reply.acknowledged = true := by
  rw [h.agrees k create hcreate]
  constructor
  · rintro ⟨order, hlast, haction⟩
    obtain ⟨⟨sent, hsent, horder, hack⟩, _⟩ :=
      Exchange.settled h.sound hlast hidle h.serves.isOpen
    have hrequest := h.request_of_latest? hlast
    rw [haction] at hrequest
    -- both requests are the one that the namer makes
    have hsame : create = order.request := Except.ok.inj (hcreate.symm.trans hrequest)
    exact ⟨sent, hsent, by rw [horder, hsame], hack⟩
  · rintro ⟨sent, hsent, hrequest, _⟩
    cases hlast : p.exchange.outbox.latest? k with
    | none =>
      rw [Exchange.lastSent?_eq_none_of_latest? h.sound hlast] at hsent
      cases hsent
    | some order =>
      obtain ⟨⟨last, hlastSent, horder, _⟩, _⟩ :=
        Exchange.settled h.sound hlast hidle h.serves.isOpen
      rw [hsent] at hlastSent
      have hsame : sent = last := Option.some.inj hlastSent
      refine ⟨order, rfl, ?_⟩
      rw [← horder, ← hsame, hrequest]
      exact CommandBuilder.action_request (a := .create) hcreate

/-- A resource with no pending order that is not live was left alone, or its deletion was sent
last and acknowledged. -/
theorem deletion_sent_of_not_needs (h : Conforms s p) {k : Resource} {create : Request}
    (hcreate : (namer s).createRequest s.commands.targetRouter k = .ok create)
    (hidle : k ∉ p.exchange.outbox.pendingKeys) (hdead : ¬p.observer.roster.needs k = true) :
    (∀ sent ∈ p.exchange.sent, sent.order.resource ≠ k)
      ∨ ∃ sent, p.exchange.lastSent? k = some sent
          ∧ (namer s).deleteRequest s.commands.targetRouter k = .ok sent.order.request
          ∧ sent.reply.acknowledged = true := by
  rw [h.agrees k create hcreate] at hdead
  cases hlast : p.exchange.outbox.latest? k with
  | none =>
    exact .inl (Exchange.lastSent?_eq_none.1 (Exchange.lastSent?_eq_none_of_latest? h.sound hlast))
  | some order =>
    have hrequest := h.request_of_latest? hlast
    cases haction : order.request.action with
    | create => exact absurd ⟨order, hlast, haction⟩ hdead
    | delete =>
      rw [haction] at hrequest
      obtain ⟨⟨sent, hsent, horder, hack⟩, _⟩ :=
        Exchange.settled h.sound hlast hidle h.serves.isOpen
      exact .inr ⟨sent, hsent, by rw [horder]; exact hrequest, hack⟩

end Conforms

/-! ## §5. Convergence. -/

/-- **What the engine was told converges to what is live.**  After every quiet run of a service
with valid settings, however its attempts went, and for every resource that can be created: it is
live if and only if the last order accepted for it is a creation.  If no order for it is pending,
it is live if and only if its creation was sent last and was acknowledged; if it is not live then,
nothing was ever sent for it, or its deletion was sent last and was acknowledged.  If it was never
live, nothing was ever sent for it. -/
theorem convergence {m : Expression.Matcher} {s : Settings} (hvalid : s.validate m = .ok ())
    {script : Script} (hscript : script.Permits (· = .count)) :
    ∃ p, start m s script = .ok p ∧ ∀ (steps : List Step), (∀ step ∈ steps, step.Quiet) →
      ∀ k create, (namer s).createRequest s.commands.targetRouter k = .ok create →
        let q := runAll 1 steps p
        let live := q.observer.roster.needs k = true
        (live ↔ ∃ order, q.exchange.outbox.latest? k = some order
            ∧ order.request.action = .create)
          ∧ (k ∉ q.exchange.outbox.pendingKeys →
              (live ↔ ∃ sent, q.exchange.lastSent? k = some sent
                  ∧ sent.order.request = create ∧ sent.reply.acknowledged = true)
                ∧ (¬live → (∀ sent ∈ q.exchange.sent, sent.order.resource ≠ k)
                    ∨ ∃ sent, q.exchange.lastSent? k = some sent
                        ∧ (namer s).deleteRequest s.commands.targetRouter k
                          = .ok sent.order.request
                        ∧ sent.reply.acknowledged = true))
          ∧ ((∀ n, ¬(runAll 1 (steps.take n) p).observer.roster.needs k = true) →
              ∀ sent ∈ q.exchange.sent, sent.order.resource ≠ k) := by
  obtain ⟨p, hstart, hp, hledger⟩ := exists_start hvalid hscript
  refine ⟨p, hstart, fun steps hquiet k create hcreate => ?_⟩
  intro q live
  have hq : Conforms s q := hp.runAll hquiet 1
  refine ⟨hq.agrees k create hcreate, fun hidle =>
    ⟨hq.needs_iff_lastSent? hcreate hidle, hq.deletion_sent_of_not_needs hcreate hidle⟩,
    fun hnever => ?_⟩
  have hlast : q.exchange.outbox.latest? k = p.exchange.outbox.latest? k :=
    hp.latest?_runAll_of_not_needs hquiet hnever
  have hnone : p.exchange.outbox.latest? k = none := by
    rw [Outbox.latest?_eq_none, hledger]
    simp
  exact Exchange.lastSent?_eq_none.1
    (Exchange.lastSent?_eq_none_of_latest? hq.sound (hlast.trans hnone))

/-- Settings under which names are short. -/
def terse : Settings where
  commands := { retryDelay := 2 }
  naming := { domainRoute := "d", sessionName := "s", routeName := "r", sessionConfig := "c",
              routeConfig := "c" }
  filters := { ignoreBuiltinTopics := false, ignoreWildcardPartitions := false }

/-- The first attempt for the session is not answered, the second one is. -/
theorem convergence_terse :
    let script : Script := [("hdds-router::d::s", ⟨none, .silence⟩)]
    let steps : List Step :=
      [.line "[\"discovered\",\"0.0.0.0.0.0.0.0.0.0.0.0.0.0.0.1\",\"out\",\"T\",\"U\"]",
        .exchange (.advance 2)]
    let k : Resource := .ofSession ⟨"T", ""⟩
    terse.validate Expression.engine = .ok () ∧ script.Permits (· = .count)
      ∧ (∀ step ∈ steps, step.Quiet)
      ∧ ∃ p, start Expression.engine terse script = .ok p ∧ ∃ sent,
          (runAll 1 steps p).exchange.lastSent? k = some sent
            ∧ sent.order.request = .create "hdds-router" "hdds-router::d" "s" "c"
            ∧ sent.reply.acknowledged = true := by
  intro script steps k
  have hvalid : terse.validate Expression.engine = .ok () := by decide +kernel
  have hscript : script.Permits (· = .count) := by
    unfold Script.Permits
    decide
  have hquiet : ∀ step ∈ steps, step.Quiet := by
    simp [steps, Step.Quiet, Exchange.Step.Permits]
  have hcreate : (namer terse).createRequest terse.commands.targetRouter k
      = .ok (.create "hdds-router" "hdds-router::d" "s" "c") := by decide +kernel
  obtain ⟨p, hstart, hconverges⟩ := convergence hvalid hscript
  obtain ⟨_, hidle, _⟩ := hconverges steps hquiet k _ hcreate
  obtain rfl : ⟨.new [], .start [.steady], .start (outbox terse) script⟩ = p :=
    Except.ok.inj hstart
  have hdone : k ∉ (runAll 1 steps ⟨.new [], .start [.steady],
      .start (outbox terse) script⟩).exchange.outbox.pendingKeys := by decide +kernel
  exact ⟨hvalid, hscript, hquiet, _, hstart, (hidle hdone).1.1 (by decide +kernel)⟩

end Pipeline

end RoutingSessions
