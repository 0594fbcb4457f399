/-
  RoutingSessions.Proofs.Traffic.Refusal — a refused command, whatever is under way.

  A command that is refused changes the notes of the outbox, and the number of naming
  errors if there was no request for it.  What can happen to traffic depends on neither:
  on the intents, the clock and the attempts alone.  So whatever can happen after the
  refusal can happen without it, and the other way round; it has the same effect on what
  is tried and when, and the other commands get the same answers.

  The command may come while attempts are under way, in any number and for any
  resources, or between them.

  Main statements:
    * `Enabled.congr` — what can happen depends on intents, clock and attempts.
    * `canHappen_iff_of_alike` — notes and naming errors do not matter.
    * `refusal_of_events` — a refused command, among all that happens.
-/
import RoutingSessions.Proofs.Outbox.Alike
import RoutingSessions.Traffic

namespace RoutingSessions

namespace Traffic

/-! ## §1. What can happen. -/

/-- The event can happen now. -/
def Enabled (t : Traffic) : Event → Prop
  | .ask _ => True
  | .tick => True
  | .forget i => i ∈ t.outbox.intents ∧ i.canceled = true ∧ ¬t.UnderWay i.order
  | .start i => t.MayStart i
  | .finish i _ => t.UnderWay i.order

theorem move_iff {e : Event} {t u : Traffic} : Move e t u ↔ t.Enabled e ∧ u = t.after e := by
  constructor
  · intro h
    refine ⟨?_, h.eq_after⟩
    cases h with
    | ask c => trivial
    | tick => trivial
    | forget hi hc hidle => exact ⟨hi, hc, hidle⟩
    | start hi => exact hi
    | finish reply hi => exact hi
  · intro henabled
    obtain ⟨h, rfl⟩ := henabled
    cases e with
    | ask c => exact .ask c
    | tick => exact .tick
    | forget i => exact .forget h.1 h.2.1 h.2.2
    | start i => exact .start h
    | finish i reply => exact .finish reply h

/-- **What can happen depends on intents, clock and attempts.** -/
theorem Enabled.congr {e : Event} {t u : Traffic} (hintents : u.outbox.intents = t.outbox.intents)
    (hclock : u.outbox.clock = t.outbox.clock) (hattempts : u.attempts = t.attempts)
    (h : t.Enabled e) : u.Enabled e := by
  have hunder : ∀ order, u.UnderWay order ↔ t.UnderWay order := by
    intro order
    unfold UnderWay
    rw [hattempts]
  cases e with
  | ask c => trivial
  | tick => trivial
  | forget i =>
    obtain ⟨hi, hc, hidle⟩ := h
    exact ⟨hintents ▸ hi, hc, fun hu => hidle ((hunder _).1 hu)⟩
  | start i =>
    have h : t.MayStart i := h
    exact ⟨hintents ▸ h.mem_intents, h.live, hclock ▸ h.due, hintents ▸ h.oldest,
      hattempts ▸ h.idle⟩
  | finish i reply => exact (hunder _).2 h

/-- The events can happen, one after the other. -/
def CanHappen (es : List Event) (t : Traffic) : Prop :=
  Path (fun _ _ => True) es t (t.afterAll es)

theorem canHappen_cons {e : Event} {es : List Event} {t : Traffic} :
    CanHappen (e :: es) t ↔ t.Enabled e ∧ CanHappen es (t.after e) := by
  constructor
  · rintro ⟨⟩
    next hmove hrest =>
      obtain ⟨henabled, rfl⟩ := move_iff.1 hmove
      exact ⟨henabled, hrest⟩
  · intro h
    exact .cons trivial (move_iff.2 ⟨h.1, rfl⟩) h.2

theorem canHappen_append {first second : List Event} {t : Traffic} :
    CanHappen (first ++ second) t ↔ CanHappen first t ∧ CanHappen second (t.afterAll first) := by
  induction first generalizing t with
  | nil => exact ⟨fun h => ⟨.nil, h⟩, fun h => h.2⟩
  | cons e first ih =>
    rw [List.cons_append, canHappen_cons, canHappen_cons, ih, and_assoc]
    rfl

/-! ## §2. Traffic that differs in naming errors and notes. -/

/-- What the outbox says to the command that is given, if one is. -/
def answers (e : Event) (t : Traffic) : List Outbox.Answer :=
  e.command?.toList.map fun c => (t.outbox.run c).2

/-- The traffic `t` is `u`, but for so many more naming errors and for what was noted. -/
structure Alike (n : Nat) (t u : Traffic) : Prop where
  outbox : t.outbox.Alike n u.outbox
  attempts : t.attempts = u.attempts

namespace Alike

variable {n : Nat} {t u : Traffic} (h : Alike n t u)
include h

theorem enabled_iff (e : Event) : t.Enabled e ↔ u.Enabled e :=
  ⟨.congr h.outbox.intents.symm h.outbox.clock.symm h.attempts.symm,
    .congr h.outbox.intents h.outbox.clock h.attempts⟩

/-- An event makes alike of what was alike, and a command gets the same answer. -/
theorem after (e : Event) : Alike n (t.after e) (u.after e) ∧ answers e t = answers e u := by
  cases e with
  | ask c =>
    obtain ⟨hanswer, hrun⟩ := h.outbox.run c
    exact ⟨⟨hrun, h.attempts⟩, congrArg ([·]) hanswer⟩
  | tick => exact ⟨⟨h.outbox.tick, h.attempts⟩, rfl⟩
  | forget i => exact ⟨⟨h.outbox.forget _, h.attempts⟩, rfl⟩
  | start i =>
    refine ⟨⟨h.outbox, ?_⟩, rfl⟩
    show t.attempts ++ [⟨t.outbox.clock, i.order, none⟩] = _
    rw [h.attempts, h.outbox.clock]
    rfl
  | finish i reply => exact ⟨⟨h.outbox.conclude i reply, congrArg (List.map _) h.attempts⟩, rfl⟩

/-- **Notes and naming errors do not matter** to what can happen, nor to what comes of it. -/
theorem afterAll (es : List Event) :
    (CanHappen es t ↔ CanHappen es u) ∧ Alike n (t.afterAll es) (u.afterAll es)
      ∧ along answers es t = along answers es u := by
  induction es generalizing t u with
  | nil => exact ⟨⟨fun _ => .nil, fun _ => .nil⟩, h, rfl⟩
  | cons e es ih =>
    obtain ⟨hafter, hanswer⟩ := h.after e
    obtain ⟨hcan, hend, hanswers⟩ := ih hafter
    refine ⟨?_, hend, ?_⟩
    · rw [canHappen_cons, canHappen_cons, h.enabled_iff e, hcan]
    · show answers e t ++ along answers es _ = answers e u ++ along answers es _
      rw [hanswer, hanswers]

end Alike

/-! ## §3. Refused commands. -/

/-- **A refused command is invisible, whatever is under way.**  Take it out of all that happens:
the same can happen afterwards, and at every later point the same was tried at the same times and
ended in the same ways, the other commands got the same answers, and the outbox is the same, its
counters included, except that there is one naming error less if there was no request for the
command, and that notes differ. -/
theorem refusal_of_events (first : Traffic) {past : List Event} {c : Outbox.Command}
    {e : CommandError} (hrefuses : (first.afterAll past).outbox.Refuses e c) (more : List Event) :
    let given := past ++ .ask c :: more
    let spared := past ++ more
    (CanHappen given first ↔ CanHappen spared first)
      ∧ (first.afterAll given).attempts = (first.afterAll spared).attempts
      ∧ along answers spared first
        = (along answers given first).eraseIdx (along answers past first).length
      ∧ (first.afterAll given).outbox.Alike e.toll (first.afterAll spared).outbox := by
  intro given spared
  let t := first.afterAll past
  have hasked : Alike e.toll (t.ask c) t := ⟨Outbox.alike_run_of_refuses hrefuses, rfl⟩
  obtain ⟨hcan, hend, hanswers⟩ := hasked.afterAll more
  have hgiven : first.afterAll given = (t.ask c).afterAll more := afterAll_append _ _ _
  have hspared : first.afterAll spared = t.afterAll more := afterAll_append _ _ _
  refine ⟨?can, ?attempts, ?answers, ?outbox⟩
  case can =>
    rw [canHappen_append, canHappen_append, canHappen_cons]
    exact and_congr_right fun _ => (and_iff_right trivial).trans hcan
  case attempts =>
    rw [hgiven, hspared]
    exact hend.attempts
  case answers =>
    have hsplit : along answers given first
        = along answers past first ++ (t.outbox.run c).2 :: along answers more (t.ask c) :=
      along_append _ _ _ _
    rw [hsplit, List.eraseIdx_append_of_length_le (Nat.le_refl _), Nat.sub_self, hanswers]
    exact along_append _ _ _ _
  case outbox =>
    rw [hgiven, hspared]
    exact hend.outbox

end Traffic

end RoutingSessions
