/-
  RoutingSessions.Proofs.Outbox.Alike — outboxes that differ in naming errors and notes.

  A command that is refused leaves its outbox as it was, but for a note, and for one
  naming error more if there was no request for it.  Nothing that an outbox does looks
  at notes or at naming errors: two outboxes that differ in nothing else give the same
  answers, and differ in nothing else afterwards.

  Main statements:
    * `Alike.run`, `Alike.conclude` — notes and naming errors do not matter.
    * `alike_run_of_refuses` — what a refused command does.
    * `refuses_runAll` — which commands are refused can be told beforehand.
-/
import RoutingSessions.Proofs.Outbox.Fates

namespace RoutingSessions

/-- How many naming errors a refusal counts as. -/
def CommandError.toll : CommandError → Nat
  | .naming _ => 1
  | .shutDown => 0
  | .noRuntime => 0

namespace Outbox

/-! ## §1. What does not matter. -/

/-- The outbox `p` is `o`, but for so many more naming errors and for what was noted. -/
structure Alike (n : Nat) (p o : Outbox) : Prop where
  settings : p.settings = o.settings
  builder : p.builder = o.builder
  clock : p.clock = o.clock
  ledger : p.ledger = o.ledger
  intents : p.intents = o.intents
  isShutDown : p.isShutDown = o.isShutDown
  tally : p.tally = { o.tally with namingErrors := o.tally.namingErrors + n }

namespace Alike

variable {n : Nat} {p o : Outbox}

theorem pendingCount (h : Alike n p o) : p.pendingCount = o.pendingCount := by
  unfold Outbox.pendingCount
  rw [h.intents]

/-- What is noted does not matter, and what is counted on both sides neither. -/
theorem count (h : Alike n p o) (f : Tally → Tally)
    (hf : ∀ t, f { t with namingErrors := t.namingErrors + n }
      = { f t with namingErrors := (f t).namingErrors + n }) (notes notes' : List Note) :
    Alike n { p with tally := f p.tally, notes := notes }
      { o with tally := f o.tally, notes := notes' } :=
  { h with
    tally := by
      show f p.tally = _
      rw [h.tally, hf] }

theorem note (h : Alike n p o) (notes notes' : List Note) :
    Alike n { p with notes := notes } { o with notes := notes' } :=
  h.count id (fun _ => rfl) notes notes'

theorem forget (h : Alike n p o) (ticket : Nat) : Alike n (p.forget ticket) (o.forget ticket) :=
  { h with
    intents := by
      show p.intents.filter _ = o.intents.filter _
      rw [h.intents] }

theorem postpone (h : Alike n p o) (ticket : Nat) :
    Alike n (p.postpone ticket) (o.postpone ticket) :=
  { h with
    intents := by
      show p.intents.map _ = o.intents.map _
      rw [h.intents, h.clock, h.settings] }

theorem tick (h : Alike n p o) :
    Alike n { p with clock := p.clock + 1 } { o with clock := o.clock + 1 } :=
  { h with clock := congrArg (· + 1) h.clock }

theorem accept (h : Alike n p o) (k : Resource) (request : Request) :
    Alike n (p.accept k request) (o.accept k request) := by
  have horder : p.newOrder k request = o.newOrder k request := by
    unfold newOrder
    rw [h.ledger, h.clock]
  have hkeys : p.pendingKeys = o.pendingKeys := by
    unfold pendingKeys
    rw [h.intents]
  constructor
  case settings => rw [settings_accept, settings_accept, h.settings]
  case builder => rw [builder_accept, builder_accept, h.builder]
  case clock => rw [clock_accept, clock_accept, h.clock]
  case ledger => rw [ledger_accept, ledger_accept, h.ledger, horder]
  case intents => rw [intents_accept, intents_accept, h.intents, horder, h.clock]
  case isShutDown => rw [isShutDown_accept, isShutDown_accept, h.isShutDown]
  case tally => rw [tally_accept, tally_accept, h.tally, hkeys]

theorem submit (h : Alike n p o) (c : Change) :
    (p.submit c).2 = (o.submit c).2 ∧ Alike n (p.submit c).1 (o.submit c).1 := by
  have hrequest : p.builder.request p.settings.targetRouter c.action c.resource
      = o.builder.request o.settings.targetRouter c.action c.resource := by
    rw [h.builder, h.settings]
  cases hr : o.builder.request o.settings.targetRouter c.action c.resource with
  | error e =>
    rw [submit_of_naming_error hr, submit_of_naming_error (hrequest.trans hr)]
    refine ⟨rfl, h.count (fun t => { t with namingErrors := t.namingErrors + 1 }) (fun t => ?_)
      p.notes o.notes⟩
    show { t with namingErrors := t.namingErrors + n + 1 } = _
    rw [Nat.add_right_comm]
  | ok request =>
    by_cases hs : o.isShutDown = true
    · rw [submit_of_isShutDown hs hr, submit_of_isShutDown (h.isShutDown.trans hs)
        (hrequest.trans hr)]
      exact ⟨rfl, h⟩
    · have hp : ¬p.isShutDown = true := by rwa [h.isShutDown]
      rw [submit_of_isOpen hs hr, submit_of_isOpen hp (hrequest.trans hr)]
      exact ⟨rfl, h.accept c.resource request⟩

/-- **Notes and naming errors do not matter** to any command, and no answer reveals them. -/
theorem run (h : Alike n p o) (c : Command) :
    (p.run c).2 = (o.run c).2 ∧ Alike n (p.run c).1 (o.run c).1 := by
  cases c with
  | submit change =>
    obtain ⟨hanswer, hafter⟩ := h.submit change
    rw [run_submit, run_submit, hanswer]
    exact ⟨rfl, hafter⟩
  | relay change =>
    obtain ⟨hanswer, hafter⟩ := h.submit change
    refine ⟨rfl, ?_⟩
    show Alike n (p.relay change) (o.relay change)
    rw [relay_eq, relay_eq, hanswer]
    split
    next => exact hafter
    next => exact hafter.note _ _
  | shutDown =>
    have hnoted := h.note (p.notes ++ [.shutDown p.pendingCount])
      (o.notes ++ [.shutDown o.pendingCount])
    refine ⟨rfl, { hnoted with isShutDown := rfl, intents := ?_ }⟩
    show p.intents.map _ = o.intents.map _
    rw [h.intents]
  | count => exact ⟨congrArg Answer.count h.pendingCount, h⟩

theorem runAll (h : Alike n p o) (cs : List Command) :
    (p.runAll cs).2 = (o.runAll cs).2 ∧ Alike n (p.runAll cs).1 (o.runAll cs).1 := by
  induction cs generalizing p o with
  | nil => exact ⟨rfl, h⟩
  | cons c cs ih =>
    obtain ⟨hanswer, hafter⟩ := h.run c
    obtain ⟨hanswers, hrest⟩ := ih hafter
    refine ⟨?_, hrest⟩
    show (p.run c).2 :: ((p.run c).1.runAll cs).2 = (o.run c).2 :: ((o.run c).1.runAll cs).2
    rw [hanswer, hanswers]

/-- **Nor do they matter to the end of an attempt.** -/
theorem conclude (h : Alike n p o) (i : Intent) (reply : Reply) :
    Alike n (p.conclude i reply) (o.conclude i reply) := by
  have hcanceled : p.isCanceled i.order.ticket = o.isCanceled i.order.ticket := by
    unfold isCanceled
    rw [h.intents]
  unfold Outbox.conclude
  rw [hcanceled]
  split
  next =>
    exact (h.count (fun t => { t with attempts := t.attempts + 1 }) (fun _ => rfl) _ _).forget _
  next =>
    cases reply with
    | response r =>
      by_cases hr : r.acknowledged = true
      · simp only [if_pos hr]
        exact (h.count (fun t => { t with
          attempts := t.attempts + 1, successes := t.successes + 1 }) (fun _ => rfl) _ _).forget _
      · simp only [if_neg hr]
        exact (h.count (fun t => { t with
          attempts := t.attempts + 1, failures := t.failures + 1 }) (fun _ => rfl) _ _).postpone _
    | silence =>
      exact (h.count (fun t => { t with
        attempts := t.attempts + 1, timeouts := t.timeouts + 1 }) (fun _ => rfl) _ _).postpone _
    | breakdown =>
      exact (h.count (fun t => { t with
        attempts := t.attempts + 1, failures := t.failures + 1 }) (fun _ => rfl) _ _).postpone _

end Alike

/-! ## §2. Refused commands. -/

/-- The command is for a change, and the outbox refuses it. -/
def Refuses (o : Outbox) (e : CommandError) : Command → Prop
  | .submit c => (o.submit c).2 = .error e
  | .relay c => (o.submit c).2 = .error e
  | .shutDown => False
  | .count => False

/-- **A refused command does nothing** but be noted, and counted if there was no request for it. -/
theorem alike_run_of_refuses {o : Outbox} {c : Command} {e : CommandError} (h : o.Refuses e c) :
    Alike e.toll (o.run c).1 o := by
  have hsubmit : ∀ change, (o.submit change).2 = .error e →
      Alike e.toll (o.submit change).1 o := by
    intro change herror
    rcases submit_cases_verdict change o with ⟨_, _, _, heq⟩ | ⟨_, _, heq⟩ | ⟨_, _, heq⟩
    · rw [heq] at herror
      cases herror
    · rw [heq] at herror ⊢
      cases herror
      exact ⟨rfl, rfl, rfl, rfl, rfl, rfl, rfl⟩
    · rw [heq] at herror ⊢
      cases herror
      exact ⟨rfl, rfl, rfl, rfl, rfl, rfl, rfl⟩
  cases c with
  | submit change =>
    rw [run_submit]
    exact hsubmit change h
  | relay change =>
    show Alike _ (o.relay change) o
    rw [relay_eq, show (o.submit change).2 = .error e from h]
    exact (hsubmit change h).note _ o.notes
  | shutDown => cases h
  | count => cases h

/-- **Among other commands a refused one does nothing either**, and the others get the same
answers without it. -/
theorem runAll_of_refuses {o : Outbox} {before : List Command} {c : Command} {e : CommandError}
    (h : (o.runAll before).1.Refuses e c) (after : List Command) :
    (o.runAll (before ++ after)).2
        = (o.runAll (before ++ c :: after)).2.eraseIdx before.length
      ∧ Alike e.toll (o.runAll (before ++ c :: after)).1 (o.runAll (before ++ after)).1 := by
  obtain ⟨hanswers, hafter⟩ := (alike_run_of_refuses h).runAll after
  rw [runAll_append, runAll_append]
  refine ⟨?_, hafter⟩
  show (o.runAll before).2 ++ ((o.runAll before).1.runAll after).2
    = ((o.runAll before).2 ++ _ :: (((o.runAll before).1.run c).1.runAll after).2).eraseIdx _
  rw [List.eraseIdx_append_of_length_le (Nat.le_of_eq (length_answers_runAll before o)),
    length_answers_runAll, Nat.sub_self, hanswers]
  rfl

/-- **Which command is refused behind which ones** depends on the names, the settings and whether
the outbox is shut down. -/
theorem refuses_runAll {o p : Outbox} (hsettings : p.settings = o.settings)
    (hbuilder : p.builder = o.builder) (hshut : p.isShutDown = o.isShutDown) {before : List Command}
    {c : Command} {e : CommandError} (h : (o.runAll before).1.Refuses e c) :
    (p.runAll before).1.Refuses e c := by
  induction before generalizing o p with
  | nil =>
    have hanswer := answer_submit hsettings hbuilder hshut
    cases c with
    | submit change => exact (hanswer change).trans h
    | relay change => exact (hanswer change).trans h
    | shutDown => exact h
    | count => exact h
  | cons d before ih =>
    have hlater : (p.run d).1.isShutDown = (o.run d).1.isShutDown := by
      by_cases hd : d = .shutDown
      · rw [hd]
        rfl
      · rw [isShutDown_run hd, isShutDown_run hd, hshut]
    exact ih (by rw [settings_run, settings_run, hsettings])
      (by rw [builder_run, builder_run, hbuilder]) hlater h

end Outbox

end RoutingSessions
