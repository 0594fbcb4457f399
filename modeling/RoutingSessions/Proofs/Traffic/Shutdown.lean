/-
  RoutingSessions.Proofs.Traffic.Shutdown — what is left when an outbox is shut down.

  A shutdown cancels all that is pending, and from then on no command is accepted.  So
  every order that is left is a canceled one, and a canceled order is forgotten, not
  tried: no attempt starts any more.

  Any number of attempts may be under way at that moment, one for each resource.  They
  end like any others, but their orders are canceled by then, so each of them counts as
  an attempt and as nothing else.  That is all that is counted after a shutdown, apart
  from the commands for which there is no request.

  Main statements:
    * `Closed.run` — what is shut down stays so.
    * `Final.move` — what happens after a shutdown.
    * `Final.atRest` — how it ends.
    * `Final.exists_rest` — that it can end.
-/
import RoutingSessions.Proofs.Traffic.Sound

namespace RoutingSessions

/-! ## §1. Outboxes that are shut down. -/

namespace Outbox

/-- Why a command for a change is refused after a shutdown. -/
def refusal (c : Change) (o : Outbox) : CommandError :=
  match o.builder.request o.settings.targetRouter c.action c.resource with
  | .error e => .naming e
  | .ok _ => .shutDown

/-- The outbox `o` was shut down, and became `p`.  So many attempts have ended since. -/
structure Closed (o : Outbox) (ended : Nat) (p : Outbox) : Prop where
  orderly : p.Orderly
  isShutDown : p.isShutDown = true
  ledger : p.ledger = o.ledger
  /-- Successes, failures, timeouts and superseded orders are not counted any more. -/
  tally : p.tally = { o.tally with
    attempts := o.tally.attempts + ended
    namingErrors := p.tally.namingErrors }

/-- Nothing is pending, and nothing that is asked can change it. -/
structure Inert (o : Outbox) : Prop where
  pendingCount : o.pendingCount = 0
  /-- Every command for a change is refused, and a refusal of an observed one is noted. -/
  submit : ∀ c, (o.run (.submit c)).2 = .refused (o.refusal c)
  relay : ∀ c, (o.run (.relay c)).1.notes
    = o.notes ++ [.unschedulable c.resource.session (o.refusal c)]
  /-- Nothing is placed, and no order is touched. -/
  orders : ∀ c, (o.run c).1.ledger = o.ledger ∧ (o.run c).1.intents = o.intents
  /-- Another shutdown changes nothing, and drops nothing. -/
  shutDown : (o.run .shutDown).1 = { o with notes := o.notes ++ [.shutDown 0] }

namespace Orderly

variable {o : Outbox} (h : Orderly o) (hs : o.isShutDown = true)
include h hs

theorem pendingCount_of_isShutDown : o.pendingCount = 0 :=
  List.countP_eq_zero.2 fun i hi => by simp [h.halted hs i hi]

/-- What is canceled is not canceled again. -/
theorem shutDown_of_isShutDown : o.shutDown = { o with notes := o.notes ++ [.shutDown 0] } := by
  have hintents : o.intents.map Intent.cancel = o.intents := by
    refine (List.map_congr_left fun i hi => ?_).trans (List.map_id _)
    obtain ⟨order, attempts, due, canceled⟩ := i
    have hcanceled : canceled = true := h.halted hs _ hi
    rw [hcanceled]
    rfl
  unfold Outbox.shutDown
  rw [hintents, h.pendingCount_of_isShutDown hs]
  congr 1
  exact hs.symm

/-- **After a shutdown, a command touches notes and naming errors only.** -/
theorem run_of_isShutDown (c : Command) : ∃ namingErrors notes, (o.run c).1 = { o with
    tally := { o.tally with namingErrors := namingErrors }
    notes := notes } := by
  rcases run_cases_fate c o with
    ⟨_, _, _, hopen, _⟩ | ⟨notes, _, heq⟩ | ⟨notes, _, _, heq⟩ | ⟨_, _, heq⟩ | ⟨_, heq⟩
  · rw [hs] at hopen
    cases hopen
  · exact ⟨_, notes, heq⟩
  · exact ⟨o.tally.namingErrors, notes, heq⟩
  · exact ⟨o.tally.namingErrors, _, heq.trans (h.shutDown_of_isShutDown hs)⟩
  · exact ⟨o.tally.namingErrors, o.notes, heq⟩

theorem inert_of_isShutDown : Inert o where
  pendingCount := h.pendingCount_of_isShutDown hs
  submit c := by
    unfold refusal Outbox.run
    cases hr : o.builder.request o.settings.targetRouter c.action c.resource with
    | error e => simp only [submit_of_naming_error hr]
    | ok request => simp only [submit_of_isShutDown hs hr]
  relay c := by
    show (o.relay c).notes = _
    unfold refusal Outbox.relay
    cases hr : o.builder.request o.settings.targetRouter c.action c.resource with
    | error e =>
      rw [submit_of_naming_error hr]
      rfl
    | ok request =>
      rw [submit_of_isShutDown hs hr]
      rfl
  orders c := by
    obtain ⟨_, _, heq⟩ := h.run_of_isShutDown hs c
    rw [heq]
    exact ⟨rfl, rfl⟩
  shutDown := h.shutDown_of_isShutDown hs

end Orderly

namespace Closed

variable {o p : Outbox} {ended : Nat}

theorem inert (h : Closed o ended p) : Inert p := h.orderly.inert_of_isShutDown h.isShutDown

/-- A shutdown itself counts nothing. -/
theorem shutDown (h : Orderly o) : Closed o 0 o.shutDown := ⟨h.shutDown, rfl, rfl, rfl⟩

/-- **What is shut down stays so**, whatever is asked. -/
theorem run (h : Closed o ended p) (c : Command) : Closed o ended (p.run c).1 := by
  refine ⟨h.orderly.run c, ?_, ?_, ?_⟩
  all_goals
    obtain ⟨namingErrors, notes, heq⟩ := h.orderly.run_of_isShutDown h.isShutDown c
    rw [heq]
  · exact h.isShutDown
  · exact h.ledger
  · show { p.tally with namingErrors := namingErrors } = _
    rw [h.tally]

theorem runAll (h : Closed o ended p) (cs : List Command) : Closed o ended (p.runAll cs).1 :=
  runAll_keeps (fun c _ h => h.run c) cs h

/-- A shutdown among other commands. -/
theorem runAll_shutDown (h : Orderly o) (before after : List Command) :
    Closed (o.runAll before).1 0 (o.runAll (before ++ .shutDown :: after)).1 := by
  rw [runAll_append]
  exact (Closed.shutDown (h.runAll before)).runAll after

theorem forget (h : Closed o ended p) (ticket : Nat) : Closed o ended (p.forget ticket) :=
  ⟨h.orderly.forget ticket, h.isShutDown, h.ledger, h.tally⟩

theorem tick (h : Closed o ended p) : Closed o ended { p with clock := p.clock + 1 } :=
  ⟨h.orderly.of_sublist rfl rfl (.refl _), h.isShutDown, h.ledger, h.tally⟩

/-- An attempt whose order was canceled counts as an attempt, and as nothing else. -/
theorem discard (h : Closed o ended p) (i : Intent) : Closed o (ended + 1) (p.discard i) where
  orderly := (h.orderly.count _ _).forget _
  isShutDown := h.isShutDown
  ledger := h.ledger
  tally := by
    show { p.tally with attempts := p.tally.attempts + 1 } = _
    rw [h.tally]
    rfl

end Closed

end Outbox

/-! ## §2. Traffic that is shut down. -/

namespace Traffic

open Outbox (Closed Inert)

/-- At `s` the outbox was shut down, and so many of the attempts that were under way have ended
since.  No other attempt was started, and nothing can be asked of the outbox any more. -/
structure Final (s : Traffic) (ended : Nat) (u : Traffic) : Prop where
  closed : Closed s.outbox ended u.outbox
  inert : Inert u.outbox
  /-- The rest of them are under way. -/
  underWay : ended + u.underWayCount = s.underWayCount
  attempts : u.attempts.map (fun a => (a.time, a.order))
    = s.attempts.map fun a => (a.time, a.order)

/-- At rest nothing is canceled, and after a shutdown everything is, so no order is left. -/
theorem AtRest.intents_eq_nil_of_isShutDown {t : Traffic} (hrest : t.AtRest)
    (h : t.outbox.Orderly) (hs : t.outbox.isShutDown = true) : t.outbox.intents = [] := by
  refine List.eq_nil_iff_forall_not_mem.2 fun i hi => ?_
  have hlive := hrest.live i hi
  rw [h.halted hs i hi] at hlive
  cases hlive

/-- What is left to do after a shutdown: attempts to end, and orders to forget. -/
def load (t : Traffic) : Nat := t.underWayCount + t.outbox.intents.length

namespace Final

variable {e : Event} {s t u : Traffic} {ended : Nat}

theorem shutDown (hs : Sound s) : Final s 0 (s.ask .shutDown) where
  closed := .shutDown hs.accounts.toOrderly
  inert := (Closed.shutDown hs.accounts.toOrderly).inert
  underWay := Nat.zero_add _
  attempts := rfl

/-- What touches no attempt. -/
theorem of_outbox (h : Final s ended t) {o : Outbox} (ho : Closed s.outbox ended o) :
    Final s ended { t with outbox := o } := ⟨ho, ho.inert, h.underWay, h.attempts⟩

/-- **No attempt starts any more**, for every order that is left is a canceled one. -/
theorem not_mayStart (h : Final s ended t) (i : Intent) : ¬t.MayStart i := by
  intro hi
  have hopen := h.closed.orderly.isShutDown_eq_false hi.mem_intents hi.live
  rw [h.closed.isShutDown] at hopen
  cases hopen

/-- **The outcome of an attempt under way is discarded**, whatever it is. -/
theorem conclude_eq_discard (h : Final s ended t) (ht : Sound t) {i : Intent}
    (hi : t.UnderWay i.order) (reply : Reply) :
    t.outbox.conclude i reply = t.outbox.discard i := by
  obtain ⟨a, ha, horder, hnone⟩ := hi
  -- the order that is tried is held still, and it is canceled
  obtain ⟨j, hj, hja⟩ := ht.held a ha hnone
  have hcanceled : t.outbox.isCanceled i.order.ticket = true := by
    rw [← horder, ← hja, h.closed.orderly.isCanceled_eq hj]
    exact h.closed.orderly.halted h.closed.isShutDown j hj
  exact if_pos hcanceled

theorem finish (h : Final s ended t) (ht : Sound t) {i : Intent} (hi : t.UnderWay i.order)
    (reply : Reply) : Final s (ended + 1) (t.finish i reply) := by
  have hclosed : Closed s.outbox (ended + 1) (t.finish i reply).outbox := by
    show Closed s.outbox (ended + 1) (t.outbox.conclude i reply)
    rw [h.conclude_eq_discard ht hi reply]
    exact h.closed.discard i
  refine ⟨hclosed, hclosed.inert, ?underWay, ?attempts⟩
  case underWay =>
    have hless := ht.underWayCount_finish hi reply
    have hbefore := h.underWay
    omega
  case attempts =>
    show (t.attempts.map (answer i.order reply)).map _ = _
    rw [List.map_map, ← h.attempts]
    refine List.map_congr_left fun a _ => ?_
    show ((answer i.order reply a).time, (answer i.order reply a).order) = _
    rw [time_answer, order_answer]

/-- **What happens after a shutdown**: attempts end, and nothing else. -/
theorem move (h : Final s ended t) (ht : Sound t) (hmove : Move e t u) :
    ∃ later, Final s later u := by
  cases hmove with
  | ask c => exact ⟨ended, h.of_outbox (h.closed.run c)⟩
  | tick => exact ⟨ended, h.of_outbox h.closed.tick⟩
  | forget _ _ _ => exact ⟨ended, h.of_outbox (h.closed.forget _)⟩
  | start hi => exact absurd hi (h.not_mayStart _)
  | finish reply hi => exact ⟨ended + 1, h.finish ht hi reply⟩

/-- **What is final stays so**, whatever events follow. -/
theorem reaches (h : Final s ended t) (ht : Sound t) (htu : Reaches t u) :
    ∃ later, Final s later u := by
  refine (htu.preserves (P := fun v => Sound v ∧ ∃ later, Final s later v)
    (fun e v w hv hmove => ?_) ⟨ht, ended, h⟩).2
  obtain ⟨hsound, _, hfinal⟩ := hv
  exact ⟨hsound.move hmove, hfinal.move hsound hmove⟩

/-- **How it ends**: all attempts have ended, and no order is left. -/
theorem atRest (h : Final s ended t) (hrest : t.AtRest) :
    t.outbox.intents = [] ∧ ended = s.underWayCount := by
  constructor
  · exact hrest.intents_eq_nil_of_isShutDown h.closed.orderly h.closed.isShutDown
  · have hnone : t.underWayCount = 0 := by
      refine List.countP_eq_zero.2 fun a ha hpending => ?_
      exact hrest.idle a ha (Option.isNone_iff_eq_none.1 hpending)
    have hcount := h.underWay
    omega

/-- What is left can be done away with: an attempt that is under way may end, and if there is none
a canceled order may be forgotten. -/
theorem exists_lighter (h : Final s ended t) (ht : Sound t) (hbusy : ¬t.AtRest) :
    ∃ e u later, e.Momentary (fun _ => False) (fun _ => True) ∧ Move e t u ∧ Final s later u
      ∧ u.load < t.load := by
  unfold load
  by_cases hunder : ∃ a ∈ t.attempts, a.reply = none
  · obtain ⟨a, ha, hnone⟩ := hunder
    obtain ⟨i, hi, horder⟩ := ht.held a ha hnone
    have hway : t.UnderWay i.order := ⟨a, ha, horder.symm, hnone⟩
    have hcount := ht.underWayCount_finish hway .silence
    have hlength : (t.finish i .silence).outbox.intents.length ≤ t.outbox.intents.length := by
      show (t.outbox.conclude i .silence).intents.length ≤ _
      rw [h.conclude_eq_discard ht hway .silence]
      exact List.length_filter_le _ _
    exact ⟨.finish i .silence, _, _, trivial, .finish .silence hway, h.finish ht hway .silence,
      by omega⟩
  · have hidle : ∀ a ∈ t.attempts, a.reply ≠ none := fun a ha hnone => hunder ⟨a, ha, hnone⟩
    -- with no order left there would be nothing to do
    obtain ⟨i, hi⟩ : ∃ i, i ∈ t.outbox.intents := by
      by_contra hnone
      exact hbusy ⟨hidle, fun i hi => absurd ⟨i, hi⟩ hnone, h.not_mayStart⟩
    have hcanceled := h.closed.orderly.halted h.closed.isShutDown i hi
    have hway : ¬t.UnderWay i.order := by
      intro hunder
      obtain ⟨a, ha, _, hnone⟩ := hunder
      exact hidle a ha hnone
    have hlength : (t.outbox.forget i.order.ticket).intents.length < t.outbox.intents.length :=
      Outbox.length_forget_lt hi
    exact ⟨.forget i, _, _, trivial, .forget hi hcanceled hway, h.of_outbox (h.closed.forget _),
      Nat.add_lt_add_left hlength t.underWayCount⟩

/-- **It can end**, with no command and while no time passes. -/
theorem exists_rest (h : Final s ended t) (ht : Sound t) :
    ∃ es u, Path (fun e _ => e.Momentary (fun _ => False) fun _ => True) es t u ∧ u.AtRest := by
  obtain ⟨size, hsize⟩ : ∃ size, t.load < size := ⟨_, Nat.lt_succ_self _⟩
  induction size generalizing t ended with
  | zero => exact absurd hsize (Nat.not_lt_zero _)
  | succ size ih =>
    by_cases hrest : t.AtRest
    · exact ⟨[], t, .nil, hrest⟩
    · obtain ⟨e, u, later, hok, hmove, hfinal, hless⟩ := h.exists_lighter ht hrest
      obtain ⟨es, v, hpath, hv⟩ := ih hfinal (ht.move hmove) (by omega)
      exact ⟨e :: es, v, .cons hok hmove hpath, hv⟩

end Final

end Traffic

end RoutingSessions
