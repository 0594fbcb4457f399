/-
  RoutingSessions.Proofs.Exchange.Independence — resources retry independently.

  From the steps of a run everything is erased that is about other resources: the
  commands for them, and the outcomes for entities that are not the one of the
  resource.  What stays is the time that passes, and the shutdown.  A lane does not
  change when it takes a step that is erased, and takes what is left of a step like the
  step itself.  So the run and what is left of it, seen from the resource, are the same
  run of its lane.

  Main statements:
    * `Lane.run_of_erase_eq_none`, `Lane.run_of_erase_eq_some` — a lane does not notice
      the erasure.
    * `runAll_erase` — neither does the resource, from equal lanes on.
    * `retries_independent` — the answers, the calls and what is pending, at every point
      of a run.
-/
import RoutingSessions.Proofs.Exchange.Lane
import RoutingSessions.Proofs.Exchange.Rest

namespace RoutingSessions

/-! ## §1. Erasing the others. -/

/-- The command is about the resource, or about none. -/
def Outbox.Command.concerns (k : Resource) (c : Outbox.Command) : Bool := c.resource?.all (· = k)

namespace Exchange

/-- What is left of a step without the other resources. -/
def Step.erase (builder : CommandBuilder) (k : Resource) : Step → Option Step
  | .ask c => if c.concerns k then some (.ask c) else none
  | .batch cs => some (.batch (cs.filter (·.concerns k)))
  | .advance ms => some (.advance ms)
  | .settle ms => some (.settle ms)
  | .script more => some (.script (more.only (builder.entity? k)))
  | .closed => some .closed

theorem Step.erase_ask (builder : CommandBuilder) (k : Resource) (c : Outbox.Command) :
    (Step.ask c).erase builder k = if c.concerns k then some (.ask c) else none := rfl

/-- What is left of some steps without the other resources. -/
def erase (builder : CommandBuilder) (k : Resource) (steps : List Step) : List Step :=
  steps.filterMap (Step.erase builder k)

/-- The resources that a step uses. -/
def Step.resources (step : Step) : List Resource := step.commands.filterMap (·.resource?)

/-- Of the answers to some commands, those to the commands for the resource. -/
def ownAnswers (k : Resource) (cs : List Outbox.Command) (answers : List Outbox.Answer) :
    List Outbox.Answer :=
  ((cs.zip answers).filter (·.1.resource? = some k)).map (·.2)

/-- The answers that a step gave to the commands for the resource. -/
def Step.answersTo (k : Resource) : Step → Result → List Outbox.Answer
  | .ask c, .answer a => ownAnswers k [c] [a]
  | .batch cs, .answers answers => ownAnswers k cs answers
  | _, _ => []

/-- The answers that a run gave to the commands for the resource. -/
def answersTo (k : Resource) (steps : List Step) (results : List Result) : List Outbox.Answer :=
  (steps.zip results).flatMap fun p => p.1.answersTo k p.2

section Erasure

variable {builder : CommandBuilder} {k : Resource}

/-- A step is erased if it is one command for another resource. -/
theorem Step.erase_eq_none {step : Step} (he : step.erase builder k = none) :
    ∃ c : Outbox.Command, step = .ask c ∧ c.concerns k = false := by
  cases step with
  | ask c =>
    rw [Step.erase_ask] at he
    split at he
    next => cases he
    next hc => exact ⟨c, rfl, Bool.eq_false_iff.2 hc⟩
  | batch cs => cases he
  | advance ms => cases he
  | settle ms => cases he
  | script more => cases he
  | closed => cases he

/-- A step that is not erased stays what it is, or loses commands or lines. -/
theorem Step.erase_eq_some {step left : Step} (he : step.erase builder k = some left) :
    left = step ∨ (∃ cs, step = .batch cs ∧ left = .batch (cs.filter (·.concerns k)))
      ∨ ∃ more, step = .script more ∧ left = .script (more.only (builder.entity? k)) := by
  cases step with
  | ask c =>
    rw [Step.erase_ask] at he
    split at he
    next => exact .inl (Option.some.inj he).symm
    next => cases he
  | batch cs => exact .inr (.inl ⟨cs, rfl, (Option.some.inj he).symm⟩)
  | advance ms => exact .inl (Option.some.inj he).symm
  | settle ms => exact .inl (Option.some.inj he).symm
  | script more => exact .inr (.inr ⟨more, rfl, (Option.some.inj he).symm⟩)
  | closed => exact .inl (Option.some.inj he).symm

theorem Step.plain_of_erase {step left : Step} (hplain : step.Plain)
    (he : step.erase builder k = some left) : left.Plain := by
  rcases Step.erase_eq_some he with rfl | ⟨cs, rfl, rfl⟩ | ⟨more, rfl, rfl⟩
  · exact hplain
  · trivial
  · exact fun line hline => hplain line (List.mem_filter.1 hline).1

theorem Step.commands_of_erase {step left : Step} (he : step.erase builder k = some left) :
    ∀ c ∈ left.commands, c ∈ step.commands := by
  rcases Step.erase_eq_some he with rfl | ⟨cs, rfl, rfl⟩ | ⟨more, rfl, rfl⟩
  · exact fun c hc => hc
  · exact fun c hc => (List.mem_filter.1 hc).1
  · exact fun c hc => hc

end Erasure

end Exchange

/-! ## §2. A lane does not notice. -/

namespace Lane

open Exchange

variable {l : Lane}

@[simp] theorem resource_submit (c : Change) : (l.submit c).resource = l.resource := by
  unfold submit
  split
  next => rfl
  next => split <;> rfl

@[simp] theorem resource_ask (c : Outbox.Command) : (l.ask c).resource = l.resource := by
  cases c with
  | submit c =>
    show (if c.resource = l.resource then l.submit c else l).resource = _
    split
    next => exact resource_submit c
    next => rfl
  | relay c =>
    show (if c.resource = l.resource then l.submit c else l).resource = _
    split
    next => exact resource_submit c
    next => rfl
  | shutDown => rfl
  | count => rfl

theorem ask_of_not_concerns {c : Outbox.Command} (hc : c.concerns l.resource = false) :
    l.ask c = l := by
  have hother : ∀ change : Change, c.resource? = some change.resource →
      change.resource ≠ l.resource := by
    intro change hchange heq
    rw [Outbox.Command.concerns, hchange, heq] at hc
    simp at hc
  cases c with
  | submit change => exact if_neg (hother change rfl)
  | relay change => exact if_neg (hother change rfl)
  | shutDown => cases hc
  | count => rfl

theorem askAll_filter (cs : List Outbox.Command) :
    l.askAll (cs.filter (·.concerns l.resource)) = l.askAll cs := by
  induction cs generalizing l with
  | nil => rfl
  | cons c cs ih =>
    show _ = (l.ask c).askAll cs
    cases hc : c.concerns l.resource with
    | true =>
      rw [List.filter_cons_of_pos hc]
      have hrest := ih (l := l.ask c)
      rw [resource_ask] at hrest
      exact hrest
    | false =>
      rw [List.filter_cons_of_neg (by simp [hc]), ask_of_not_concerns hc]
      exact ih

/-- A lane at rest does not notice a step that is erased. -/
theorem run_of_erase_eq_none (hidle : l.drain = l) {step : Step}
    (he : step.erase l.builder l.resource = none) : l.run step = l := by
  obtain ⟨c, rfl, hc⟩ := Step.erase_eq_none he
  show (l.ask c).drain = l
  rw [ask_of_not_concerns hc, hidle]

/-- A lane takes what is left of a step like the step. -/
theorem run_of_erase_eq_some {step left : Step}
    (he : step.erase l.builder l.resource = some left) : l.run left = l.run step := by
  rcases Step.erase_eq_some he with rfl | ⟨cs, rfl, rfl⟩ | ⟨more, rfl, rfl⟩
  · rfl
  · show (l.askAll _).drain = (l.askAll cs).drain
    rw [askAll_filter]
  · show { l with outcomes := l.outcomes ++ Script.outcomesFor _ (more.only _) } = _
    rw [Script.outcomesFor_only]
    rfl

end Lane

/-! ## §3. Neither does a resource. -/

namespace Exchange

open Outbox

variable {builder : CommandBuilder} {k : Resource} {x y : Exchange}

/-- From equal lanes, a command for the resource gets the same answer. -/
theorem answer_ask (hlane : x.lane k = y.lane k) {c : Outbox.Command} (hc : c.resource? = some k) :
    (x.ask c).2 = (y.ask c).2 := by
  have hanswer : ∀ change, (x.outbox.submit change).2 = (y.outbox.submit change).2 :=
    answer_submit (congrArg Lane.settings hlane) (congrArg Lane.builder hlane)
      (congrArg Lane.isShutDown hlane)
  cases c with
  | submit change =>
    show (x.outbox.run (.submit change)).2 = (y.outbox.run (.submit change)).2
    rw [run_submit, run_submit, hanswer]
  | relay change => rfl
  | shutDown => cases hc
  | count => cases hc

theorem ownAnswers_cons (c : Outbox.Command) (cs : List Outbox.Command) (a : Outbox.Answer)
    (answers : List Outbox.Answer) :
    ownAnswers k (c :: cs) (a :: answers) = ownAnswers k [c] [a] ++ ownAnswers k cs answers := by
  unfold ownAnswers
  rw [List.zip_cons_cons, List.filter_cons]
  split <;> simp_all

theorem ownAnswers_singleton (c : Outbox.Command) (a : Outbox.Answer) :
    ownAnswers k [c] [a] = if c.resource? = some k then [a] else [] := by
  unfold ownAnswers
  by_cases hc : c.resource? = some k <;> simp [hc]

/-- From equal lanes, a command gets the same answer for the resource. -/
theorem ownAnswers_ask (hlane : x.lane k = y.lane k) (c : Outbox.Command) :
    ownAnswers k [c] [(x.ask c).2] = ownAnswers k [c] [(y.ask c).2] := by
  rw [ownAnswers_singleton, ownAnswers_singleton]
  split
  next hown => rw [answer_ask hlane hown]
  next => rfl

/-- From equal lanes, what is left of some commands gets the same answers for the resource. -/
theorem answers_askAll (hx : x.outbox.Orderly) (hy : y.outbox.Orderly)
    (hlane : x.lane k = y.lane k) (cs : List Outbox.Command) :
    ownAnswers k cs (x.askAll cs).2
      = ownAnswers k (cs.filter (·.concerns k)) (y.askAll (cs.filter (·.concerns k))).2 := by
  induction cs generalizing x y with
  | nil => rfl
  | cons c cs ih =>
    have hxnext : lane k (x.ask c).1 = (x.lane k).ask c := lane_ask hx c
    have hynext : lane k (y.ask c).1 = (y.lane k).ask c := lane_ask hy c
    show ownAnswers k (c :: cs) ((x.ask c).2 :: ((x.ask c).1.askAll cs).2) = _
    rw [ownAnswers_cons c cs]
    cases hc : c.concerns k with
    | true =>
      rw [List.filter_cons_of_pos hc]
      show _ = ownAnswers k (c :: _) ((y.ask c).2 :: ((y.ask c).1.askAll _).2)
      have hrest := ih (x := (x.ask c).1) (y := (y.ask c).1) (hx.run c) (hy.run c)
        (by rw [hxnext, hynext, hlane])
      rw [ownAnswers_cons c (cs.filter _), hrest, ownAnswers_ask hlane]
    | false =>
      -- the command is for another resource: it has no answer here, and leaves the lane
      have hother : c.resource? ≠ some k := by
        intro hown
        rw [Outbox.Command.concerns, hown] at hc
        simp at hc
      rw [List.filter_cons_of_neg (by simp [hc]), ownAnswers_singleton, if_neg hother]
      refine ih (hx.run c) hy ?_
      rw [hxnext, Lane.ask_of_not_concerns hc, hlane]

/-- From equal lanes, what is left of a step gets the same answers for the resource. -/
theorem answersTo_run (hx : x.outbox.Orderly) (hy : y.outbox.Orderly)
    (hlane : x.lane k = y.lane k) {step left : Step} (he : step.erase builder k = some left) :
    step.answersTo k (x.run step).2 = left.answersTo k (y.run left).2 := by
  cases step with
  | ask c =>
    rcases Step.erase_eq_some he with rfl | ⟨_, hne, _⟩ | ⟨_, hne, _⟩
    · exact ownAnswers_ask hlane c
    · cases hne
    · cases hne
  | batch cs =>
    rw [← Option.some.inj he]
    exact answers_askAll hx hy hlane cs
  | advance ms => rw [← Option.some.inj he]; rfl
  | settle ms => rw [← Option.some.inj he]; rfl
  | script more => rw [← Option.some.inj he]; rfl
  | closed => rw [← Option.some.inj he]; rfl

/-- A step that is erased gives the resource no answer. -/
theorem answersTo_of_erase_eq_none {step : Step} (he : step.erase builder k = none) :
    step.answersTo k (x.run step).2 = [] := by
  obtain ⟨c, rfl, hc⟩ := Step.erase_eq_none he
  show ownAnswers k [c] [(x.ask c).2] = []
  rw [ownAnswers_singleton]
  refine if_neg fun hown => ?_
  rw [Outbox.Command.concerns, hown] at hc
  simp at hc

/-- **A run and what is left of it, seen from the resource**, from equal lanes on. -/
theorem runAll_erase (hx : Distinct builder k x) (hy : Distinct builder k y)
    (hlane : x.lane k = y.lane k) (hidle : x.outbox.next? = none) {steps : List Step}
    (hplain : ∀ step ∈ steps, step.Plain)
    (hapart : ∀ step ∈ steps, ∀ j ∈ step.resources, ¬builder.Clash j k) :
    (runAll steps x).1.lane k = (runAll (erase builder k steps) y).1.lane k
      ∧ answersTo k steps (runAll steps x).2
        = answersTo k (erase builder k steps) (runAll (erase builder k steps) y).2 := by
  induction steps generalizing x y with
  | nil => exact ⟨hlane, rfl⟩
  | cons step steps ih =>
    have hstep := hplain step List.mem_cons_self
    have hcs : ∀ c ∈ step.commands, ∀ j, c.resource? = some j → ¬builder.Clash j k :=
      fun c hc j hj => hapart step List.mem_cons_self j (List.mem_filterMap.2 ⟨c, hc, hj⟩)
    obtain ⟨hxlane, hxnext⟩ := lane_run hstep hx hcs
    have hrest := fun (z : Exchange) (hz : Distinct builder k z) hsame =>
      ih hxnext hz hsame (next?_run hidle step)
        (fun s hs => hplain s (List.mem_cons_of_mem _ hs))
        (fun s hs => hapart s (List.mem_cons_of_mem _ hs))
    have hxbuilder : (x.lane k).builder = builder := hx.builder_eq
    cases he : step.erase builder k with
    | none =>
      -- the lane rests, so it does not move, and nothing is answered
      have herase : erase builder k (step :: steps) = erase builder k steps :=
        List.filterMap_cons_none he
      have hsame : (x.run step).1.lane k = y.lane k := by
        rw [hxlane, Lane.run_of_erase_eq_none (drain_lane_of_next? hidle)
          (by rw [hxbuilder]; exact he), hlane]
      obtain ⟨hend, hanswers⟩ := hrest y hy hsame
      rw [herase]
      refine ⟨hend, ?_⟩
      show step.answersTo k (x.run step).2 ++ answersTo k steps _ = _
      rw [answersTo_of_erase_eq_none he]
      exact hanswers
    | some left =>
      have herase : erase builder k (step :: steps) = left :: erase builder k steps :=
        List.filterMap_cons_some he
      obtain ⟨hylane, hynext⟩ := lane_run (Step.plain_of_erase hstep he) hy
        (fun c hc => hcs c (Step.commands_of_erase he c hc))
      have hsame : (x.run step).1.lane k = (y.run left).1.lane k := by
        rw [hxlane, hylane, ← hlane]
        exact (Lane.run_of_erase_eq_some (by rw [hxbuilder]; exact he)).symm
      obtain ⟨hend, hanswers⟩ := hrest _ hynext hsame
      rw [herase]
      refine ⟨hend, ?_⟩
      show step.answersTo k (x.run step).2 ++ answersTo k steps _
        = left.answersTo k (y.run left).2 ++ answersTo k (erase builder k steps) _
      rw [answersTo_run hx.orderly hy.orderly hlane he, hanswers]

/-! ## §4. Resources retry independently. -/

/-- **Resources retry independently.**  Take a run in which no attempt leads to commands and no
step waits for all resources, and a resource by whose entity no other resource goes that is used
in the run.  When the commands for other resources and the outcomes for other entities are erased,
then at every point of the run the resource has got the same answers and has made the same calls,
with the same times, requests, timeouts and replies in the same order, and is pending as before. -/
theorem retries_independent (settings : CommandSettings) (namer : Namer) (k : Resource)
    {script : Script} (hscript : script.Permits fun _ => False) {steps : List Step}
    (hplain : ∀ step ∈ steps, step.Plain)
    (hapart : ∀ step ∈ steps, ∀ j ∈ step.resources, ¬namer.builder.Clash j k) (n : Nat) :
    let builder := namer.builder
    let past := steps.take n
    let left := erase builder k past
    let x := runAll past (start (.new settings builder) script)
    let y := runAll left (start (.new settings builder) (script.only (builder.entity? k)))
    answersTo k past x.2 = answersTo k left y.2
      ∧ x.1.callsFor k = y.1.callsFor k
      ∧ (x.1.outbox.pendingFor? k).isSome = (y.1.outbox.pendingFor? k).isSome
      ∧ left <+: erase builder k steps := by
  intro builder past left x y
  have honly : (script.only (builder.entity? k)).Permits fun _ => False :=
    fun line hline => hscript line (List.mem_filter.1 hline).1
  have hx := distinct_start settings namer.coherent_builder k hscript
  have hy := distinct_start settings namer.coherent_builder k honly
  have hstart : (start (.new settings builder) script).lane k
      = (start (.new settings builder) (script.only (builder.entity? k))).lane k := by
    have houtcomes := Script.outcomesFor_only (builder.entity? k) script
    exact congrArg (fun outcomes => Lane.mk k settings builder 0 false none outcomes [])
      houtcomes.symm
  obtain ⟨hlane, hanswers⟩ := runAll_erase hx hy hstart rfl
    (fun s hs => hplain s (List.mem_of_mem_take hs))
    (fun s hs => hapart s (List.mem_of_mem_take hs))
  refine ⟨hanswers, congrArg Lane.calls hlane, ?pending, ?initial⟩
  case pending =>
    have herrand := congrArg (fun l => l.errand.isSome) hlane
    simpa only [lane, Option.isSome_map] using herrand
  case initial => exact (List.take_prefix n steps).filterMap _

/-- The attempts for both topics fail, for one of them more often. -/
def troubled : Script :=
  [("r::d::a", ⟨none, .silence⟩), ("r::d::b", ⟨none, .breakdown⟩), ("r::d::b", ⟨none, .silence⟩)]

/-- Two sessions are created and deleted. -/
def neighbours (k j : Resource) : List Step :=
  [.batch [.submit ⟨.create, j⟩, .submit ⟨.create, k⟩], .advance 3, .ask (.submit ⟨.delete, j⟩),
    .ask (.submit ⟨.delete, k⟩)]

theorem retries_independent_neighbours :
    let settings : CommandSettings := { retryDelay := 2 }
    let namer : Namer :=
      ⟨"r", { domainRoute := "d", sessionName := "\x7btopic\x7d", sessionConfig := "c" }⟩
    let builder := namer.builder
    let k : Resource := .ofSession ⟨"a", ""⟩
    let steps := neighbours k (.ofSession ⟨"b", ""⟩)
    let x := runAll steps (start (.new settings builder) troubled)
    let y := runAll (erase builder k steps)
      (start (.new settings builder) (troubled.only (builder.entity? k)))
    troubled.Permits (fun _ => False) ∧ (∀ step ∈ steps, step.Plain)
      ∧ (∀ step ∈ steps, ∀ j ∈ step.resources, ¬builder.Clash j k)
      ∧ x.1.sent.length = 6 ∧ y.1.sent.length = 3
      ∧ x.1.callsFor k = y.1.callsFor k
      ∧ (x.1.callsFor k).map (·.time) = [0, 2, 3]
      ∧ answersTo k (erase builder k steps) y.2 = [.done, .done] := by
  intro settings namer builder k steps x y
  have hscript : troubled.Permits fun _ => False := by
    unfold Script.Permits
    decide
  have hplain : ∀ step ∈ steps, step.Plain := by
    simp [steps, neighbours, Step.Plain]
  have hapart : ∀ step ∈ steps, ∀ j ∈ step.resources, ¬builder.Clash j k := by decide +kernel
  obtain ⟨hanswers, hcalls, _⟩ := retries_independent settings namer k hscript hplain hapart 4
  refine ⟨hscript, hplain, hapart, by decide +kernel, by decide +kernel, hcalls,
    by decide +kernel, by decide +kernel⟩

end Exchange

end RoutingSessions
