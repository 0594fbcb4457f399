/-
  RoutingSessions.Proofs.Exchange.LastCommand — the last command wins.

  An order is acknowledged when an attempt for it was answered so, at whatever time.
  What is pending for a resource is the order last accepted for it, unless that one was
  acknowledged; and no attempt for the resource follows the one on which it was.

  The delicate moment is the end of an attempt during which a newer command came in:
  the answer is one to the old order, whose intent is canceled by then, and the new
  order has a ticket of its own.  So it neither counts as acknowledged nor is it
  forgotten.

  All this holds of attempts that overlap (`RoutingSessions.Proofs.Traffic.LastCommand`).
  In a run one attempt ends before the next one starts, so what was sent is what was
  tried.

  Main statements:
    * `settled` — what is not pending was acknowledged at the last attempt.
    * `pending_of_superseded` — what comes in during an attempt is pending after it.
    * `last_command_wins` — what is pending, and what was sent last, at every point of
      every run without a shutdown.
-/
import RoutingSessions.Proofs.Exchange.Traffic
import RoutingSessions.Proofs.Traffic.LastCommand

namespace RoutingSessions

namespace Exchange

open Traffic (Path Reaches Sound)

/-! ## §1. What was sent last. -/

section Sent

variable {x y : Exchange} {k : Resource}

theorem lastAttempt?_traffic (k : Resource) (x : Exchange) :
    x.traffic.lastAttempt? k = (x.lastSent? k).map Attempt.ended := by
  unfold Traffic.lastAttempt? Traffic.attemptsFor traffic lastSent?
  rw [List.filter_map, List.getLast?_map]
  rfl

/-- For a resource without an accepted order there is no attempt. -/
theorem lastSent?_eq_none_of_latest? (h : Sound x.traffic) (hnone : x.outbox.latest? k = none) :
    x.lastSent? k = none :=
  lastSent?_eq_none.2 fun s hs =>
    Outbox.latest?_eq_none.1 hnone s.order (h.known (.ended s) (List.mem_map_of_mem hs))

/-- What was sent since is what was tried since. -/
theorem mem_drop_traffic {s : Sent} {n : Nat} (hs : s ∈ y.sent.drop n) :
    Attempt.ended s ∈ y.traffic.attempts.drop n := by
  show _ ∈ (y.sent.map Attempt.ended).drop n
  rw [← List.map_drop]
  exact List.mem_map_of_mem hs

theorem reaches_runAll (h : Sound x.traffic) (steps : List Step) :
    Reaches x.traffic (runAll steps x).1.traffic := reaches_of_leads h (leads_steps steps x)

/-- Whatever a run does from here on, its attempts for the resource are not for orders below the
ticket, if these do not count any more. -/
theorem ticket_le_of_mem_drop_sent (h : Sound x.traffic) {ticket : Nat}
    (hsuperseded : x.outbox.Superseded k ticket) (more : List Step) :
    ∀ s ∈ (runAll more x).1.sent.drop x.sent.length, s.order.resource = k →
      ticket ≤ s.order.ticket := by
  intro s hs hk
  rw [← List.length_map Attempt.ended] at hs
  exact Traffic.ticket_le_of_reaches hsuperseded (reaches_runAll h more) _ (mem_drop_traffic hs) hk

/-- An acknowledged order is done with: the last attempt for its resource was for it, and no
later one will be for an order accepted by now. -/
theorem settled (h : Sound x.traffic) {order : Order} (hlast : x.outbox.latest? k = some order)
    (hnot : k ∉ x.outbox.pendingKeys) (hs : x.outbox.isShutDown = false) :
    (∃ s, x.lastSent? k = some s ∧ s.order = order ∧ s.reply.acknowledged = true)
      ∧ ∀ (more : List Step), ∀ s ∈ (runAll more x).1.sent.drop x.sent.length,
          s.order.resource = k → s.order ∉ x.outbox.ledger := by
  obtain ⟨⟨a, ha, horder, hsucc⟩, hlater⟩ := h.settled hs hlast hnot
  rw [lastAttempt?_traffic] at ha
  obtain ⟨s, hsent, rfl⟩ := Option.map_eq_some_iff.1 ha
  refine ⟨⟨s, hsent, horder, hsucc⟩, fun more t ht hk => ?_⟩
  rw [← List.length_map Attempt.ended] at ht
  exact hlater _ (reaches_runAll h more) _ (mem_drop_traffic ht) hk

/-- An attempt during which a newer command came in leaves the newer order pending. -/
theorem pending_of_superseded (h : Sound x.traffic) {i : Intent} {newer : Order}
    (hi : x.outbox.next? = some i) (hc : i.canceled = false)
    (hs : (x.attempt i).outbox.isShutDown = false)
    (hlast : (x.attempt i).outbox.latest? i.order.resource = some newer)
    (hne : newer ≠ i.order) :
    (∃ j ∈ (x.attempt i).outbox.intents, j.order = newer ∧ j.canceled = false)
      ∧ ¬(x.attempt i).Acknowledged newer := by
  -- the end of the attempt touches neither the ledger nor the mark of a shutdown
  have hpath : Path (fun _ _ => True) (.start i :: (x.outcome i).commands.map .ask) x.traffic
      (x.during i (x.outcome i).commands) :=
    path_during h hi hc trivial fun _ _ _ => trivial
  have hduring := h.path hpath
  rw [outbox_attempt, Outbox.isShutDown_conclude] at hs
  rw [outbox_attempt, Outbox.latest?_congr (Outbox.ledger_conclude _ _ _)] at hlast
  have hpending := hduring.pending_of_newer (underWay_during i _ x) hs hlast hne
    (x.outcome i).reply
  rw [finish_during, acknowledged_traffic] at hpending
  exact hpending

end Sent

/-! ## §2. The last command wins. -/

theorem isShutDown_move {x y : Exchange} (hmove : Move (· ≠ .shutDown) x y) :
    y.outbox.isShutDown = x.outbox.isShutDown := by
  cases hmove with
  | ask hc => exact Outbox.isShutDown_run hc x.outbox
  | forget _ _ => rfl
  | attempt _ _ hcommands =>
    rw [outbox_attempt, Outbox.isShutDown_conclude]
    exact Outbox.isShutDown_runAll hcommands x.outbox
  | tick => rfl
  | script _ => rfl

theorem isShutDown_of_leads {x y : Exchange} (hxy : Leads (· ≠ .shutDown) x y)
    (hscript : x.script.Permits (· ≠ .shutDown)) (hx : x.outbox.isShutDown = false) :
    y.outbox.isShutDown = false :=
  hxy.preserves (P := fun z => z.outbox.isShutDown = false)
    (fun _ _ hz hmove => (isShutDown_move hmove).trans hz) hscript hx

/-- **The last command wins.**  In a run without a shutdown, the resources with a pending order
are those whose last accepted order was not acknowledged.  Whatever happens next, no attempt is
for an order older than the last one for its resource.  If the last one is not pending, the last
attempt was for it and was acknowledged, and no later attempt is for an order accepted by now.
If a newer command comes in while an attempt is under way, its order is pending when the attempt
has ended, however it has. -/
theorem last_command_wins (settings : CommandSettings) (builder : CommandBuilder) (script : Script)
    (steps : List Step) (hscript : script.Permits (· ≠ .shutDown))
    (hsteps : ∀ step ∈ steps, step.Permits (· ≠ .shutDown)) :
    let start := start (.new settings builder) script
    let x := (runAll steps start).1
    (∀ k, k ∈ x.outbox.pendingKeys ↔
        ∃ order, x.outbox.latest? k = some order ∧ ¬x.Acknowledged order)
      ∧ x.outbox.pendingKeys.Nodup
      ∧ x.outbox.pendingCount = x.outbox.pendingKeys.length
      ∧ (∀ k order, x.outbox.latest? k = some order →
          ∀ (more : List Step), ∀ s ∈ (runAll more x).1.sent.drop x.sent.length,
            s.order.resource = k → order.ticket ≤ s.order.ticket)
      ∧ (∀ k order, x.outbox.latest? k = some order → k ∉ x.outbox.pendingKeys →
          (∃ s, x.lastSent? k = some s ∧ s.order = order ∧ s.reply.acknowledged = true)
            ∧ ∀ (more : List Step), ∀ s ∈ (runAll more x).1.sent.drop x.sent.length,
                s.order.resource = k → s.order ∉ x.outbox.ledger)
      ∧ ∀ y i newer, Leads (· ≠ .shutDown) start y → y.outbox.next? = some i →
          i.canceled = false → (y.attempt i).outbox.latest? i.order.resource = some newer →
          newer ≠ i.order →
          (∃ j ∈ (y.attempt i).outbox.intents, j.order = newer ∧ j.canceled = false)
            ∧ ¬(y.attempt i).Acknowledged newer := by
  intro start x
  have hstart : Sound start.traffic := sound_start settings builder script
  have hruns : Leads (· ≠ .shutDown) start x := leads_runAll hsteps start
  have hx : Sound x.traffic := sound_leads hstart hscript hruns
  have hs : x.outbox.isShutDown = false := isShutDown_of_leads hruns hscript rfl
  refine ⟨fun k => ?pending, hx.accounts.nodup_pendingKeys,
    (Outbox.length_pendingKeys x.outbox).symm,
    fun k order hlast => ticket_le_of_mem_drop_sent hx (hx.accounts.superseded hlast),
    fun k order hlast hnot => settled hx hlast hnot hs, ?overtaken⟩
  case pending =>
    have hiff := hx.accounts.mem_pendingKeys_iff hs k
    simp only [acknowledged_traffic] at hiff
    exact hiff
  case overtaken =>
    intro y i newer hy hi hc hlast hne
    have hattempt : Leads (· ≠ .shutDown) start (y.attempt i) := hy.trans (leads_attempt hi hc)
    exact pending_of_superseded (sound_leads hstart hscript hy) hi hc
      (isShutDown_of_leads hattempt hscript rfl) hlast hne

/-- While the first attempt is under way, its session is to be deleted again. -/
def overtaken : Script :=
  [("r::d::s", ⟨some [.submit (.deleteSession ⟨"Square", "A"⟩)], .response .ok⟩)]

theorem last_command_wins_overtaken :
    let builder : CommandBuilder :=
      Namer.builder ⟨"r", { domainRoute := "d", sessionName := "s", sessionConfig := "c" }⟩
    let k : Resource := .ofSession ⟨"Square", "A"⟩
    let steps : List Step := [.ask (.submit ⟨.create, k⟩)]
    let x := (runAll steps (start (.new {} builder) overtaken)).1
    overtaken.Permits (· ≠ .shutDown) ∧ (∀ step ∈ steps, step.Permits (· ≠ .shutDown))
      ∧ x.sent.length = 2
      ∧ ∃ s, x.lastSent? k = some s ∧ s.order.ticket = 1 ∧ s.reply.acknowledged = true := by
  intro builder k steps x
  have hscript : overtaken.Permits (· ≠ .shutDown) := by
    unfold Script.Permits
    decide
  have hsteps : ∀ step ∈ steps, step.Permits (· ≠ .shutDown) := by
    simp [steps, Step.Permits]
  obtain ⟨_, _, _, _, hsettled, _⟩ := last_command_wins {} builder overtaken steps hscript hsteps
  have hlast : (x.outbox.latest? k).map (·.ticket) = some 1 := by decide +kernel
  obtain ⟨order, hlatest, hticket⟩ := Option.map_eq_some_iff.1 hlast
  obtain ⟨⟨s, hs, horder, hack⟩, _⟩ := hsettled k order hlatest (by decide +kernel)
  exact ⟨hscript, hsteps, by decide +kernel, s, hs, by rw [horder, hticket], hack⟩

end Exchange

end RoutingSessions
