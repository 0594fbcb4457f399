/-
  RoutingSessions.Proofs.Outbox.Cases — all that can happen to an outbox.

  A command either touches nothing but tally and notes, or has its request accepted,
  or shuts the outbox down.  At the end of an attempt the order is forgotten or put
  off.  Whatever holds in these few cases holds always, so nothing that is proved of
  an outbox has to look at its operations again.

  Main statements:
    * `run_cases` — all that a command can do.
    * `conclude_cases` — all that the end of an attempt can do.
-/
import RoutingSessions.Outbox

namespace RoutingSessions

namespace Outbox

/-! ## §1. What a command can do. -/

/-- The intent, canceled if it is for the resource. -/
def cancelFor (k : Resource) (i : Intent) : Intent :=
  if i.order.resource = k then i.cancel else i

@[simp] theorem order_cancelFor (k : Resource) (i : Intent) : (cancelFor k i).order = i.order := by
  unfold cancelFor
  split <;> rfl

theorem canceled_cancelFor {k : Resource} {i : Intent} :
    (cancelFor k i).canceled = true ↔ i.canceled = true ∨ i.order.resource = k := by
  unfold cancelFor
  by_cases hk : i.order.resource = k
  · simp [hk, Intent.cancel]
  · simp [hk]

theorem not_canceled_cancelFor {k : Resource} {i : Intent} :
    (cancelFor k i).canceled = false ↔ i.canceled = false ∧ i.order.resource ≠ k := by
  rw [Bool.eq_false_iff, ne_eq, canceled_cancelFor, not_or, Bool.eq_false_iff]

/-- A new request for a resource cancels all intents for it, whether one is pending or not. -/
theorem intents_supersede (k : Resource) (request : Request) (o : Outbox) :
    (o.supersede k request).intents = o.intents.map (cancelFor k) := by
  unfold supersede
  split
  next hnone =>
    -- nothing is pending for `k`, so its intents are canceled already
    refine (List.map_id _).symm.trans (List.map_congr_left fun i hi => ?_)
    have hidle := List.find?_eq_none.1 hnone i hi
    unfold cancelFor
    split
    next hk =>
      have hcanceled : i.canceled = true := by simpa [isPendingFor, hk] using hidle
      obtain ⟨order, attempts, due, canceled⟩ := i
      simp only [Intent.cancel, id_eq] at hcanceled ⊢
      rw [hcanceled]
    next => rfl
  next => rfl

@[simp] theorem ledger_supersede (k : Resource) (request : Request) (o : Outbox) :
    (o.supersede k request).ledger = o.ledger := by
  unfold supersede
  split <;> rfl

@[simp] theorem clock_supersede (k : Resource) (request : Request) (o : Outbox) :
    (o.supersede k request).clock = o.clock := by
  unfold supersede
  split <;> rfl

@[simp] theorem isShutDown_supersede (k : Resource) (request : Request) (o : Outbox) :
    (o.supersede k request).isShutDown = o.isShutDown := by
  unfold supersede
  split <;> rfl

@[simp] theorem builder_supersede (k : Resource) (request : Request) (o : Outbox) :
    (o.supersede k request).builder = o.builder := by
  unfold supersede
  split <;> rfl

@[simp] theorem settings_supersede (k : Resource) (request : Request) (o : Outbox) :
    (o.supersede k request).settings = o.settings := by
  unfold supersede
  split <;> rfl

/-- The order that an accepted request becomes. -/
def newOrder (k : Resource) (request : Request) (o : Outbox) : Order :=
  ⟨o.ledger.length, k, request, o.clock⟩

/-- The outbox after a request was accepted. -/
def accept (k : Resource) (request : Request) (o : Outbox) : Outbox :=
  (o.supersede k request).place k request

theorem ledger_accept (k : Resource) (request : Request) (o : Outbox) :
    (o.accept k request).ledger = o.ledger ++ [o.newOrder k request] := by
  simp [accept, place, newOrder]

theorem intents_accept (k : Resource) (request : Request) (o : Outbox) :
    (o.accept k request).intents
      = o.intents.map (cancelFor k) ++ [⟨o.newOrder k request, 0, o.clock, false⟩] := by
  simp [accept, place, newOrder, intents_supersede]

theorem mem_ledger_accept {k : Resource} {request : Request} {o : Outbox} {order : Order} :
    order ∈ (o.accept k request).ledger ↔ order ∈ o.ledger ∨ order = o.newOrder k request := by
  rw [ledger_accept, List.mem_append, List.mem_singleton]

theorem mem_intents_accept {k : Resource} {request : Request} {o : Outbox} {i : Intent} :
    i ∈ (o.accept k request).intents
      ↔ (∃ j ∈ o.intents, cancelFor k j = i)
        ∨ i = ⟨o.newOrder k request, 0, o.clock, false⟩ := by
  rw [intents_accept, List.mem_append, List.mem_map, List.mem_singleton]

@[simp] theorem isShutDown_accept (k : Resource) (request : Request) (o : Outbox) :
    (o.accept k request).isShutDown = o.isShutDown := isShutDown_supersede k request o

@[simp] theorem clock_accept (k : Resource) (request : Request) (o : Outbox) :
    (o.accept k request).clock = o.clock := clock_supersede k request o

@[simp] theorem builder_accept (k : Resource) (request : Request) (o : Outbox) :
    (o.accept k request).builder = o.builder := builder_supersede k request o

@[simp] theorem settings_accept (k : Resource) (request : Request) (o : Outbox) :
    (o.accept k request).settings = o.settings := settings_supersede k request o

/-- What a command for a change does: it is refused, and then nothing but tally and notes may
change, or it is accepted. -/
theorem submit_cases (c : Change) (o : Outbox) :
    (∃ tally e, (o.submit c) = ({ o with tally := tally }, .error e)
        ∧ (o.isShutDown = true
          ∨ ∀ request, o.builder.request o.settings.targetRouter c.action c.resource ≠ .ok request))
      ∨ ∃ request, o.builder.request o.settings.targetRouter c.action c.resource = .ok request
        ∧ o.isShutDown = false ∧ o.submit c = (o.accept c.resource request, .ok ()) := by
  unfold submit
  cases hr : o.builder.request o.settings.targetRouter c.action c.resource with
  | error e => exact .inl ⟨_, _, rfl, .inr (by simp)⟩
  | ok request =>
    -- there is a request, so only a shutdown can be in the way
    by_cases hs : o.isShutDown = true
    · simp only [if_pos hs]
      exact .inl ⟨o.tally, .shutDown, rfl, .inl hs⟩
    · simp only [if_neg hs]
      exact .inr ⟨request, rfl, Bool.eq_false_iff.2 hs, rfl⟩

/-- What is answered depends on the names, the settings and whether the outbox is shut down. -/
theorem answer_submit {o p : Outbox} (hsettings : p.settings = o.settings)
    (hbuilder : p.builder = o.builder) (hshut : p.isShutDown = o.isShutDown) (c : Change) :
    (p.submit c).2 = (o.submit c).2 := by
  unfold submit
  rw [hsettings, hbuilder, hshut]
  split
  next => rfl
  next => split <;> rfl

/-- A change that was observed is accepted exactly when its command is. -/
theorem relay_cases (c : Change) (o : Outbox) :
    (∃ tally notes, o.relay c = { o with tally := tally, notes := notes }
        ∧ (o.isShutDown = true
          ∨ ∀ request, o.builder.request o.settings.targetRouter c.action c.resource ≠ .ok request))
      ∨ ∃ request, o.builder.request o.settings.targetRouter c.action c.resource = .ok request
        ∧ o.isShutDown = false ∧ o.relay c = o.accept c.resource request := by
  unfold relay
  rcases submit_cases c o with ⟨tally, e, hsubmit, hwhy⟩ | ⟨request, hr, hs, hsubmit⟩
  · rw [hsubmit]
    exact .inl ⟨tally, _, rfl, hwhy⟩
  · rw [hsubmit]
    exact .inr ⟨request, hr, hs, rfl⟩

/-- The answer to a command for a change. -/
theorem run_submit (c : Change) (o : Outbox) :
    o.run (.submit c)
      = ((o.submit c).1, match (o.submit c).2 with
          | .ok () => .done
          | .error e => .refused e) := by
  simp only [run]
  split
  next heq => rw [heq]
  next heq => rw [heq]

/-- A change that was observed is taken in like a command, but for the note about a refusal. -/
theorem relay_eq (c : Change) (o : Outbox) :
    o.relay c = match (o.submit c).2 with
      | .ok () => (o.submit c).1
      | .error e => (o.submit c).1.note (.unschedulable c.resource.session e) := by
  unfold relay
  split
  next heq => rw [heq]
  next heq => rw [heq]

/-- **All that a command can do**: touch tally and notes only, have a request accepted, or shut
the outbox down. -/
theorem run_cases (c : Command) (o : Outbox) :
    (∃ tally notes, (o.run c).1 = { o with tally := tally, notes := notes })
      ∨ (∃ change request, (c = .submit change ∨ c = .relay change)
          ∧ o.builder.request o.settings.targetRouter change.action change.resource = .ok request
          ∧ o.isShutDown = false ∧ (o.run c).1 = o.accept change.resource request)
      ∨ (c = .shutDown ∧ (o.run c).1 = o.shutDown) := by
  cases c with
  | submit change =>
    unfold run
    rcases submit_cases change o with ⟨tally, e, hsubmit, _⟩ | ⟨request, hr, hs, hsubmit⟩
    · simp only [hsubmit]
      exact .inl ⟨tally, o.notes, rfl⟩
    · simp only [hsubmit]
      exact .inr (.inl ⟨change, request, .inl rfl, hr, hs, rfl⟩)
  | relay change =>
    rcases relay_cases change o with ⟨tally, notes, hrelay, _⟩ | ⟨request, hr, hs, hrelay⟩
    · exact .inl ⟨tally, notes, hrelay⟩
    · exact .inr (.inl ⟨change, request, .inr rfl, hr, hs, hrelay⟩)
  | shutDown => exact .inr (.inr ⟨rfl, rfl⟩)
  | count => exact .inl ⟨o.tally, o.notes, rfl⟩

@[simp] theorem builder_run (c : Command) (o : Outbox) : (o.run c).1.builder = o.builder := by
  rcases run_cases c o with ⟨_, _, h⟩ | ⟨_, _, _, _, _, h⟩ | ⟨_, h⟩
  · rw [h]
  · rw [h, builder_accept]
  · rw [h]
    rfl

@[simp] theorem settings_run (c : Command) (o : Outbox) : (o.run c).1.settings = o.settings := by
  rcases run_cases c o with ⟨_, _, h⟩ | ⟨_, _, _, _, _, h⟩ | ⟨_, h⟩
  · rw [h]
  · rw [h, settings_accept]
  · rw [h]
    rfl

@[simp] theorem clock_run (c : Command) (o : Outbox) : (o.run c).1.clock = o.clock := by
  rcases run_cases c o with ⟨_, _, h⟩ | ⟨_, _, _, _, _, h⟩ | ⟨_, h⟩
  · rw [h]
  · rw [h, clock_accept]
  · rw [h]
    rfl

theorem runAll_append (first second : List Command) (o : Outbox) :
    o.runAll (first ++ second)
      = (((o.runAll first).1.runAll second).1,
          (o.runAll first).2 ++ ((o.runAll first).1.runAll second).2) := by
  induction first generalizing o with
  | nil => rfl
  | cons c cs ih =>
    show (((o.run c).1.runAll (cs ++ second)).1,
      (o.run c).2 :: ((o.run c).1.runAll (cs ++ second)).2) = _
    rw [ih]
    rfl

theorem length_answers_runAll (cs : List Command) (o : Outbox) :
    (o.runAll cs).2.length = cs.length := by
  induction cs generalizing o with
  | nil => rfl
  | cons c cs ih => exact congrArg (· + 1) (ih (o.run c).1)

/-- **What every command keeps, commands in a row keep.** -/
theorem runAll_keeps {P : Outbox → Prop} (hrun : ∀ c o, P o → P (o.run c).1) (cs : List Command)
    {o : Outbox} (h : P o) : P (o.runAll cs).1 := by
  induction cs generalizing o with
  | nil => exact h
  | cons c cs ih => exact ih (hrun c o h)

theorem settings_runAll (cs : List Command) (o : Outbox) :
    (o.runAll cs).1.settings = o.settings :=
  runAll_keeps (P := fun p => p.settings = o.settings) (fun c p => (settings_run c p).trans) cs rfl

theorem builder_runAll (cs : List Command) (o : Outbox) : (o.runAll cs).1.builder = o.builder :=
  runAll_keeps (P := fun p => p.builder = o.builder) (fun c p => (builder_run c p).trans) cs rfl

theorem clock_runAll (cs : List Command) (o : Outbox) : (o.runAll cs).1.clock = o.clock :=
  runAll_keeps (P := fun p => p.clock = o.clock) (fun c p => (clock_run c p).trans) cs rfl

/-- What a command adds to the ledger. -/
theorem ledger_run (c : Command) (o : Outbox) :
    ∃ more, (o.run c).1.ledger = o.ledger ++ more := by
  rcases run_cases c o with ⟨tally, notes, h⟩ | ⟨change, request, _, _, _, h⟩ | ⟨_, h⟩
  · exact ⟨[], by rw [h, List.append_nil]⟩
  · exact ⟨_, by rw [h, ledger_accept]⟩
  · exact ⟨[], by rw [h, List.append_nil]; rfl⟩

@[simp] theorem isShutDown_run {c : Command} (hc : c ≠ .shutDown) (o : Outbox) :
    (o.run c).1.isShutDown = o.isShutDown := by
  rcases run_cases c o with ⟨tally, notes, h⟩ | ⟨change, request, _, _, _, h⟩ | ⟨heq, _⟩
  · rw [h]
  · rw [h, isShutDown_accept]
  · exact absurd heq hc

theorem isShutDown_runAll {cs : List Command} (hcs : ∀ c ∈ cs, c ≠ .shutDown) (o : Outbox) :
    (o.runAll cs).1.isShutDown = o.isShutDown := by
  induction cs generalizing o with
  | nil => rfl
  | cons c cs ih =>
    show ((o.run c).1.runAll cs).1.isShutDown = _
    rw [ih fun d hd => hcs d (List.mem_cons_of_mem _ hd), isShutDown_run (hcs c List.mem_cons_self)]

/-! ## §2. What the end of an attempt can do. -/

/-- **All that the end of an attempt can do**, apart from tally and notes: the order is forgotten,
because it was canceled or because the engine acknowledged it, or it is put off. -/
theorem conclude_cases (i : Intent) (reply : Reply) (o : Outbox) :
    (o.isCanceled i.order.ticket = true ∧ ∃ tally notes,
        o.conclude i reply = { o with tally := tally, notes := notes }.forget i.order.ticket)
      ∨ (o.isCanceled i.order.ticket = false ∧ reply.acknowledged = true ∧ ∃ tally notes,
        o.conclude i reply = { o with tally := tally, notes := notes }.forget i.order.ticket)
      ∨ (o.isCanceled i.order.ticket = false ∧ reply.acknowledged = false ∧ ∃ tally notes,
        o.conclude i reply
          = { o with tally := tally, notes := notes }.postpone i.order.ticket) := by
  unfold conclude
  -- the reply is not looked at if the order was canceled in the meantime
  by_cases hc : o.isCanceled i.order.ticket = true
  · rw [if_pos hc]
    exact .inl ⟨hc, _, _, rfl⟩
  · rw [if_neg hc]
    have hc : o.isCanceled i.order.ticket = false := Bool.eq_false_iff.2 hc
    cases reply with
    | response r =>
      by_cases hr : r.acknowledged = true
      · simp only [if_pos hr]
        exact .inr (.inl ⟨hc, hr, _, _, rfl⟩)
      · simp only [if_neg hr]
        exact .inr (.inr ⟨hc, Bool.eq_false_iff.2 hr, _, _, rfl⟩)
    | silence => exact .inr (.inr ⟨hc, rfl, _, _, rfl⟩)
    | breakdown => exact .inr (.inr ⟨hc, rfl, _, _, rfl⟩)

/-- What only commands touch is the same in both. -/
structure SameBooks (o p : Outbox) : Prop where
  settings : p.settings = o.settings
  builder : p.builder = o.builder
  ledger : p.ledger = o.ledger
  isShutDown : p.isShutDown = o.isShutDown

namespace SameBooks

theorem refl (o : Outbox) : SameBooks o o := ⟨rfl, rfl, rfl, rfl⟩

theorem trans {o p q : Outbox} (hop : SameBooks o p) (hpq : SameBooks p q) : SameBooks o q where
  settings := hpq.settings.trans hop.settings
  builder := hpq.builder.trans hop.builder
  ledger := hpq.ledger.trans hop.ledger
  isShutDown := hpq.isShutDown.trans hop.isShutDown

end SameBooks

theorem sameBooks_conclude (i : Intent) (reply : Reply) (o : Outbox) :
    SameBooks o (o.conclude i reply) := by
  rcases conclude_cases i reply o with ⟨_, _, _, h⟩ | ⟨_, _, _, _, h⟩ | ⟨_, _, _, _, h⟩ <;>
    rw [h] <;> exact ⟨rfl, rfl, rfl, rfl⟩

@[simp] theorem clock_conclude (i : Intent) (reply : Reply) (o : Outbox) :
    (o.conclude i reply).clock = o.clock := by
  rcases conclude_cases i reply o with ⟨_, _, _, h⟩ | ⟨_, _, _, _, h⟩ | ⟨_, _, _, _, h⟩ <;>
    rw [h] <;> rfl

@[simp] theorem ledger_conclude (i : Intent) (reply : Reply) (o : Outbox) :
    (o.conclude i reply).ledger = o.ledger := (sameBooks_conclude i reply o).ledger

@[simp] theorem isShutDown_conclude (i : Intent) (reply : Reply) (o : Outbox) :
    (o.conclude i reply).isShutDown = o.isShutDown := (sameBooks_conclude i reply o).isShutDown

end Outbox

end RoutingSessions
