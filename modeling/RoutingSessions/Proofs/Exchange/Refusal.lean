/-
  RoutingSessions.Proofs.Exchange.Refusal — a refused command is invisible.

  Two runs are compared, one with a command that is refused and one without it.  From
  the refusal on, the outboxes of the two differ in what is noted, and in the number of
  naming errors if there was no request for the command.  Neither is looked at by
  anything that an outbox does, so the runs do the same from then on.

  A command that is given while an attempt is under way stands in the script, and up to
  that attempt the scripts differ.  Which commands are refused during an attempt can be
  told beforehand: an attempt starts only while the outbox is open, so a command comes
  too late only behind a shutdown in the same attempt, and whether there is a request
  for it depends on the names alone.  A command that is refused while several attempts
  are under way is in `RoutingSessions.Proofs.Traffic.Refusal`.

  Main statements:
    * `bisimulation_spared`, `bisimulation_twins` — with and without the command, runs
      do the same.
    * `refusal_invisible` — a refused command, in a step, among others, or during an
      attempt.
-/
import RoutingSessions.Proofs.Exchange.Bisimulation
import RoutingSessions.Proofs.Exchange.Traffic
import RoutingSessions.Proofs.Outbox.Alike

namespace RoutingSessions

open Outbox (Alike)

/-! ## §1. Scripts that differ in one line. -/

namespace Script

variable {entity : String} {line line' : String × Outcome} {lines : Script}

theorem take_cons_of_eq (he : line.1 = entity) : take entity (line :: lines) = (line.2, lines) :=
  if_pos he

theorem take_cons_of_ne (he : line.1 ≠ entity) :
    take entity (line :: lines) = ((take entity lines).1, line :: (take entity lines).2) :=
  if_neg he

/-- **Scripts that differ in what one line says**: either this line is taken from both of them, or
the same is taken from both, and the line is left. -/
theorem take_of_line (entity : String) (line line' : String × Outcome)
    (hline : line'.1 = line.1) (pre post : Script) :
    (take entity (pre ++ line :: post) = (line.2, pre ++ post)
        ∧ take entity (pre ++ line' :: post) = (line'.2, pre ++ post))
      ∨ ∃ outcome pre' post', take entity (pre ++ line :: post) = (outcome, pre' ++ line :: post')
        ∧ take entity (pre ++ line' :: post) = (outcome, pre' ++ line' :: post') := by
  induction pre with
  | nil =>
    by_cases he : line.1 = entity
    · exact .inl ⟨take_cons_of_eq he, take_cons_of_eq (hline.trans he)⟩
    · have he' : line'.1 ≠ entity := by rwa [hline]
      exact .inr ⟨_, [], _, take_cons_of_ne he, take_cons_of_ne he'⟩
  | cons first pre ih =>
    by_cases he : first.1 = entity
    · exact .inr ⟨_, pre, post, take_cons_of_eq he, take_cons_of_eq he⟩
    · -- the first line stays, whatever is taken behind it
      have hskip : ∀ lines, take entity (first :: lines)
          = ((take entity lines).1, first :: (take entity lines).2) :=
        fun lines => take_cons_of_ne he
      simp only [List.cons_append, hskip]
      rcases ih with ⟨htake, htake'⟩ | ⟨outcome, pre', post', htake, htake'⟩
      · rw [htake, htake']
        exact .inl ⟨rfl, rfl⟩
      · rw [htake, htake']
        exact .inr ⟨outcome, first :: pre', post', rfl, rfl⟩

end Script

/-- The attempt without the answer to one of the commands given meanwhile. -/
def Sent.without (n : Nat) (s : Sent) : Sent := { s with during := s.during.map (·.eraseIdx n) }

namespace Exchange

/-! ## §2. From the refusal on. -/

/-- The exchange `x` is `y` after a command that was refused: so many naming errors were counted
on account of it, and before anything else was sent this was `old` instead of `old'`. -/
structure Spared (n : Nat) (old old' : List Sent) (x y : Exchange) : Prop where
  outbox : Alike n x.outbox y.outbox
  script : x.script = y.script
  sent : ∃ new, x.sent = old ++ new ∧ y.sent = old' ++ new

namespace Spared

variable {n : Nat} {old old' : List Sent} {x y : Exchange} (h : Spared n old old' x y)
include h

theorem attempt (i : Intent) : Spared n old old' (x.attempt i) (y.attempt i) := by
  -- the scripts are the same, so the attempt goes the same way, and the same is asked meanwhile
  have houtcome : x.outcome i = y.outcome i := by
    unfold outcome
    rw [h.script]
  obtain ⟨hanswers, hasked⟩ := h.outbox.runAll (y.outcome i).commands
  have hrecord : x.record i = y.record i := by
    unfold record
    rw [houtcome, hanswers, h.outbox.clock]
  refine ⟨?outbox, ?script, ?sent⟩
  case outbox =>
    rw [outbox_attempt, outbox_attempt, asked, houtcome]
    exact hasked.conclude i (y.outcome i).reply
  case script =>
    show (x.script.take _).2 = (y.script.take _).2
    rw [h.script]
  case sent =>
    obtain ⟨new, hx, hy⟩ := h.sent
    refine ⟨new ++ [y.record i], ?_, ?_⟩
    · rw [sent_attempt_record, hx, hrecord, List.append_assoc]
    · rw [sent_attempt_record, hy, List.append_assoc]

theorem process (i : Intent) : Spared n old old' (x.process i) (y.process i) := by
  unfold Exchange.process
  split
  next => exact ⟨h.outbox.forget _, h.script, h.sent⟩
  next => exact h.attempt i

end Spared

/-- **From the refusal on, runs with and without the command do the same.** -/
theorem bisimulation_spared (n : Nat) (old old' : List Sent) :
    Bisimulation (Spared n old old') where
  intents h := h.outbox.intents
  clock h := h.outbox.clock
  isShutDown h := h.outbox.isShutDown
  ask h c := by
    obtain ⟨hanswer, hafter⟩ := h.outbox.run c
    exact ⟨hanswer, hafter, h.script, h.sent⟩
  process h i _ := h.process i
  tick h := ⟨h.outbox.tick, h.script, h.sent⟩
  script h more := ⟨h.outbox, congrArg (· ++ more) h.script, h.sent⟩

/-- At rest, a refused command leaves nothing to do. -/
theorem drain_of_alike {n : Nat} {x : Exchange} {p : Outbox} (hp : Alike n p x.outbox)
    (hrest : x.outbox.next? = none) :
    drain { x with outbox := p } = { x with outbox := p } := by
  refine drainWith_of_next? _ ?_
  show p.intents.find? _ = none
  rw [hp.intents, hp.clock]
  exact hrest

/-! ## §3. Up to the refusal. -/

/-- A line of a script, with one of the commands that are given while the attempt is under way. -/
structure Aside where
  entity : String
  before : List Outbox.Command
  command : Outbox.Command
  after : List Outbox.Command
  reply : Reply

namespace Aside

def line (a : Aside) : String × Outcome :=
  (a.entity, ⟨some (a.before ++ a.command :: a.after), a.reply⟩)

/-- The line without the command. -/
def rest (a : Aside) : String × Outcome := (a.entity, ⟨some (a.before ++ a.after), a.reply⟩)

end Aside

/-- The exchange `x` is `y`, but for a line with a command that will be refused, for the outbox is
open whenever an attempt starts. -/
structure Waiting (a : Aside) (e : CommandError) (x y : Exchange) : Prop where
  orderly : x.outbox.Orderly
  outbox : y.outbox = x.outbox
  sent : y.sent = x.sent
  script : ∃ pre post, x.script = pre ++ a.line :: post ∧ y.script = pre ++ a.rest :: post
  refused : ∀ o : Outbox, o.settings = x.outbox.settings → o.builder = x.outbox.builder →
    o.isShutDown = false → (o.runAll a.before).1.Refuses e a.command

/-- The exchange `x` is `y`, but for a command during an attempt that will be refused, or was. -/
def Twins (a : Aside) (e : CommandError) (x y : Exchange) : Prop :=
  Waiting a e x y
    ∨ ∃ old s, Spared e.toll (old ++ [s]) (old ++ [s.without a.before.length]) x y

namespace Waiting

variable {a : Aside} {e : CommandError} {x y : Exchange} (h : Waiting a e x y)
include h

/-- What happens to both outboxes leaves the line waiting. -/
theorem of_outbox {o : Outbox} (ho : o.Orderly) (hsettings : o.settings = x.outbox.settings)
    (hbuilder : o.builder = x.outbox.builder) :
    Waiting a e { x with outbox := o } { y with outbox := o } where
  orderly := ho
  outbox := rfl
  sent := h.sent
  script := h.script
  refused p hp hn := h.refused p (hp.trans hsettings) (hn.trans hbuilder)

/-- An attempt for which another line is taken leaves the line waiting. -/
theorem attempt_of_other {i : Intent} {outcome : Outcome} {pre post : Script}
    (hx : x.script.take i.order.request.entity = (outcome, pre ++ a.line :: post))
    (hy : y.script.take i.order.request.entity = (outcome, pre ++ a.rest :: post)) :
    Waiting a e (x.attempt i) (y.attempt i) := by
  have houtcome : y.outcome i = x.outcome i := by
    unfold Exchange.outcome
    rw [hx, hy]
  have hrecord : y.record i = x.record i := by
    unfold record
    rw [houtcome, h.outbox]
  refine ⟨?orderly, ?outbox, ?sent, ⟨pre, post, congrArg Prod.snd hx, congrArg Prod.snd hy⟩,
    ?refused⟩
  case orderly => exact (h.orderly.runAll _).conclude _ _
  case outbox =>
    rw [outbox_attempt, outbox_attempt, asked, asked, houtcome, h.outbox]
  case sent => rw [sent_attempt_record, sent_attempt_record, h.sent, hrecord]
  case refused =>
    intro o hsettings hbuilder
    rw [outbox_attempt, (Outbox.sameBooks_conclude _ _ _).settings] at hsettings
    rw [outbox_attempt, (Outbox.sameBooks_conclude _ _ _).builder] at hbuilder
    exact h.refused o (hsettings.trans (Outbox.settings_runAll _ _))
      (hbuilder.trans (Outbox.builder_runAll _ _))

/-- **The attempt for which the line is taken**: its command is refused, and what else is said in
it has the same effect without the command. -/
theorem attempt_of_line {i : Intent} {left : Script} (hopen : x.outbox.isShutDown = false)
    (hx : x.script.take i.order.request.entity = (a.line.2, left))
    (hy : y.script.take i.order.request.entity = (a.rest.2, left)) :
    Spared e.toll (x.sent ++ [x.record i]) (x.sent ++ [(x.record i).without a.before.length])
      (x.attempt i) (y.attempt i) := by
  -- up to here the outboxes are the same, and behind the refused command they are alike
  have hxoutcome : x.outcome i = a.line.2 := congrArg Prod.fst hx
  have hyoutcome : y.outcome i = a.rest.2 := congrArg Prod.fst hy
  obtain ⟨hanswers, halike⟩ :=
    Outbox.runAll_of_refuses (h.refused x.outbox rfl rfl hopen) a.after
  have hrecord : y.record i = (x.record i).without a.before.length := by
    unfold record Sent.without
    rw [hxoutcome, hyoutcome, h.outbox]
    exact congrArg (fun l => Sent.mk _ _ (some l) _) hanswers
  refine ⟨?outbox, ?script, [], ?_, ?_⟩
  case outbox =>
    rw [outbox_attempt, outbox_attempt, asked, asked, hxoutcome, hyoutcome, h.outbox]
    exact halike.conclude i a.reply
  case script => exact (congrArg Prod.snd hx).trans (congrArg Prod.snd hy).symm
  · rw [sent_attempt_record, List.append_nil]
  · rw [sent_attempt_record, h.sent, hrecord, List.append_nil]

theorem process {i : Intent} (hi : x.outbox.next? = some i) :
    Twins a e (x.process i) (y.process i) := by
  unfold Exchange.process
  split
  next =>
    have hforget := h.of_outbox (h.orderly.forget i.order.ticket) rfl rfl
    rw [h.outbox]
    exact .inl hforget
  next hc =>
    obtain ⟨pre, post, hx, hy⟩ := h.script
    have htakes := Script.take_of_line i.order.request.entity a.line a.rest rfl pre post
    rw [← hx, ← hy] at htakes
    rcases htakes with ⟨hxtake, hytake⟩ | ⟨outcome, pre', post', hxtake, hytake⟩
    · -- the order that is tried is not canceled, so the outbox is open
      have hopen : x.outbox.isShutDown = false :=
        h.orderly.isShutDown_eq_false (mem_of_next? hi) (Bool.eq_false_iff.2 hc)
      exact .inr ⟨x.sent, x.record i,
        h.attempt_of_line hopen hxtake hytake⟩
    · exact .inl (h.attempt_of_other hxtake hytake)

end Waiting

/-- The outboxes of twins are alike, before and after the refusal. -/
theorem Twins.alike {a : Aside} {e : CommandError} {x y : Exchange} (h : Twins a e x y) :
    ∃ n, Alike n x.outbox y.outbox := by
  rcases h with h | ⟨_, _, h⟩
  · rw [h.outbox]
    exact ⟨0, rfl, rfl, rfl, rfl, rfl, rfl, rfl⟩
  · exact ⟨_, h.outbox⟩

/-- **Up to the refusal and from it on, runs with and without the command do the same.** -/
theorem bisimulation_twins (a : Aside) (e : CommandError) : Bisimulation (Twins a e) where
  intents h := h.alike.choose_spec.intents
  clock h := h.alike.choose_spec.clock
  isShutDown h := h.alike.choose_spec.isShutDown
  ask {x y} h c := by
    rcases h with h | ⟨old, s, h⟩
    · have hafter := h.of_outbox (h.orderly.run c) (Outbox.settings_run c _)
        (Outbox.builder_run c _)
      unfold Exchange.ask
      rw [h.outbox]
      exact ⟨rfl, .inl hafter⟩
    · obtain ⟨hanswer, hafter⟩ := (bisimulation_spared _ _ _).ask h c
      exact ⟨hanswer, .inr ⟨old, s, hafter⟩⟩
  process {x y} h {i} hi := by
    rcases h with h | ⟨old, s, h⟩
    · exact h.process hi
    · exact .inr ⟨old, s, h.process i⟩
  tick {x y} h := by
    rcases h with h | ⟨old, s, h⟩
    · have hafter := h.of_outbox (o := { x.outbox with clock := x.outbox.clock + 1 })
        (h.orderly.of_sublist rfl rfl (.refl _)) rfl rfl
      rw [h.outbox]
      exact .inl hafter
    · exact .inr ⟨old, s, (bisimulation_spared _ _ _).tick h⟩
  script {x y} h more := by
    rcases h with h | ⟨old, s, h⟩
    · obtain ⟨pre, post, hx, hy⟩ := h.script
      refine .inl { h with script := ⟨pre, post ++ more, ?_, ?_⟩ }
      · rw [hx, List.append_assoc]
        rfl
      · rw [hy, List.append_assoc]
        rfl
    · exact .inr ⟨old, s, (bisimulation_spared _ _ _).script h more⟩

/-! ## §4. Refused commands in a run. -/

/-- Nothing that happens changes the settings and the names. -/
theorem names_of_leads {x z : Exchange} (hxz : Leads (fun _ => True) x z) :
    z.outbox.settings = x.outbox.settings ∧ z.outbox.builder = x.outbox.builder := by
  refine hxz.preserves (P := fun w => w.outbox.settings = x.outbox.settings
    ∧ w.outbox.builder = x.outbox.builder) (fun v w hv hmove => ?_) (fun _ _ _ _ => trivial)
    ⟨rfl, rfl⟩
  cases hmove with
  | @ask c _ _ =>
    show (v.outbox.run c).1.settings = _ ∧ (v.outbox.run c).1.builder = _
    rw [Outbox.settings_run, Outbox.builder_run]
    exact hv
  | forget _ _ => exact hv
  | @attempt i _ _ _ _ =>
    have hbooks := Outbox.sameBooks_conclude i (v.outcome i).reply (v.asked i)
    rw [outbox_attempt, hbooks.settings, hbooks.builder, asked, Outbox.settings_runAll,
      Outbox.builder_runAll]
    exact hv
  | tick => exact hv
  | script _ => exact hv

/-- What is refused at one moment at which an attempt starts is refused at all of them. -/
theorem waiting_of_refuses {x z : Exchange} (hx : x.outbox.Orderly) {a : Aside} {e : CommandError}
    {pre post : Script} (hscript : x.script = pre ++ a.line :: post)
    (hxz : Leads (fun _ => True) x z) (hopen : z.outbox.isShutDown = false)
    (hrefuses : (z.outbox.runAll a.before).1.Refuses e a.command) :
    Waiting a e x { x with script := pre ++ a.rest :: post } where
  orderly := hx
  outbox := rfl
  sent := rfl
  script := ⟨pre, post, hscript, rfl⟩
  refused o hsettings hbuilder ho := by
    obtain ⟨hzsettings, hzbuilder⟩ := names_of_leads hxz
    exact Outbox.refuses_runAll (hsettings.trans hzsettings.symm) (hbuilder.trans hzbuilder.symm)
      (ho.trans hopen.symm) hrefuses

/-- A refused command between two steps. -/
theorem spared_ask {x : Exchange} (hrest : x.outbox.next? = none) {c : Outbox.Command}
    {e : CommandError} (hrefuses : x.outbox.Refuses e c) :
    Spared e.toll x.sent x.sent (x.run (.ask c)).1 x := by
  have halike := Outbox.alike_run_of_refuses hrefuses
  have hstays : (x.run (.ask c)).1 = { x with outbox := (x.outbox.run c).1 } :=
    drain_of_alike halike hrest
  rw [hstays]
  exact ⟨halike, rfl, [], (List.append_nil _).symm, (List.append_nil _).symm⟩

/-- A refused command among the commands of a step. -/
theorem spared_batch {x : Exchange} {before : List Outbox.Command} {c : Outbox.Command}
    {e : CommandError} (hrefuses : (x.outbox.runAll before).1.Refuses e c)
    (after : List Outbox.Command) :
    Spared e.toll x.sent x.sent (x.run (.batch (before ++ c :: after))).1
      (x.run (.batch (before ++ after))).1 := by
  obtain ⟨_, halike⟩ := Outbox.runAll_of_refuses hrefuses after
  have hasked : Spared e.toll x.sent x.sent (x.askAll (before ++ c :: after)).1
      (x.askAll (before ++ after)).1 :=
    ⟨halike, rfl, [], (List.append_nil _).symm, (List.append_nil _).symm⟩
  exact (bisimulation_spared _ _ _).drain hasked

/-- When the same was sent before, all that was sent is the same. -/
theorem Spared.sent_eq {n : Nat} {old : List Sent} {x y : Exchange} (h : Spared n old old x y) :
    x.sent = y.sent := by
  obtain ⟨new, hx, hy⟩ := h.sent
  rw [hx, hy]

/-- **A refused command is invisible.**  Take it out of the run, be it a step of its own, one of
the commands of a step, or one that is given while an attempt is under way, wherever this attempt
stands among the outcomes to come: at every later point the same was answered to all other
commands, the same was sent at the same times, and the outbox is the same, its counters included,
except that there is one naming error less if there was no request for the command, and that
notes differ.  A command of the last kind is refused when it is given if there is any moment `z`
from now on at which an attempt starts and it would be refused during this attempt. -/
theorem refusal_invisible (settings : CommandSettings) (builder : CommandBuilder)
    (script : Script) :
    let first := start (.new settings builder) script
    (∀ past c e more, (runAll past first).1.outbox.Refuses e c →
        let x := runAll (past ++ .ask c :: more) first
        let y := runAll (past ++ more) first
        y.2 = x.2.eraseIdx past.length ∧ x.1.sent = y.1.sent
          ∧ Alike e.toll x.1.outbox y.1.outbox)
      ∧ (∀ past before c e after more,
          ((runAll past first).1.outbox.runAll before).1.Refuses e c →
          let x := runAll (past ++ .batch (before ++ c :: after) :: more) first
          let y := runAll (past ++ .batch (before ++ after) :: more) first
          (∃ earlier answers later, earlier.length = past.length
              ∧ x.2 = earlier ++ .answers answers :: later
              ∧ y.2 = earlier ++ .answers (answers.eraseIdx before.length) :: later)
            ∧ x.1.sent = y.1.sent ∧ Alike e.toll x.1.outbox y.1.outbox)
      ∧ ∀ past (a : Aside) e pre post z i,
          let now := (runAll past first).1
          now.script = pre ++ a.line :: post → Leads (fun _ => True) now z →
          z.outbox.next? = some i → i.canceled = false →
          (z.outbox.runAll a.before).1.Refuses e a.command →
          ∀ more,
            let x := runAll more now
            let y := runAll more { now with script := pre ++ a.rest :: post }
            x.2 = y.2
              ∧ ((x.1.sent = y.1.sent ∧ x.1.outbox = y.1.outbox)
                ∨ ((∃ old s new, x.1.sent = old ++ s :: new
                      ∧ y.1.sent = old ++ s.without a.before.length :: new)
                  ∧ Alike e.toll x.1.outbox y.1.outbox)) := by
  intro first
  have hrest : ∀ past, (runAll past first).1.outbox.next? = none :=
    next?_runAll (next?_start settings builder script)
  refine ⟨?step, ?batch, ?during⟩
  case step =>
    intro past c e more hrefuses x y
    obtain ⟨hresults, hspared⟩ :=
      (bisimulation_spared _ _ _).runAll (spared_ask (hrest past) hrefuses) more
    have hx : x = _ := runAll_append past (.ask c :: more) first
    have hy : y = _ := runAll_append past more first
    rw [hx, hy]
    refine ⟨?_, hspared.sent_eq, hspared.outbox⟩
    show (runAll past first).2 ++ _
      = ((runAll past first).2 ++ _ :: (runAll more _).2).eraseIdx past.length
    rw [← length_results_runAll past first, List.eraseIdx_append_of_length_le (Nat.le_refl _),
      Nat.sub_self, hresults]
    rfl
  case batch =>
    intro past before c e after more hrefuses x y
    obtain ⟨hanswers, _⟩ := Outbox.runAll_of_refuses hrefuses after
    obtain ⟨hresults, hspared⟩ :=
      (bisimulation_spared _ _ _).runAll (spared_batch hrefuses after) more
    have hx : x = _ := runAll_append past (.batch (before ++ c :: after) :: more) first
    have hy : y = _ := runAll_append past (.batch (before ++ after) :: more) first
    rw [hx, hy]
    refine ⟨⟨(runAll past first).2, _, _, length_results_runAll past first, rfl, ?_⟩,
      hspared.sent_eq, hspared.outbox⟩
    rw [hresults]
    show (runAll past first).2 ++ .answers ((runAll past first).1.outbox.runAll _).2 :: _ = _
    rw [hanswers]
    rfl
  case during =>
    intro past a e pre post z i now hscript hz hi hc hrefuses more x y
    have hnow : Leads (fun _ => True) first now := leads_steps past first
    -- an attempt starts in `z`, so the outbox is open there
    have hopen : z.outbox.isShutDown = false :=
      (orderly_of_leads (hnow.trans hz)).isShutDown_eq_false (mem_of_next? hi) hc
    have hwaiting := waiting_of_refuses (orderly_of_leads hnow) hscript hz hopen hrefuses
    obtain ⟨hresults, htwins⟩ := (bisimulation_twins a e).runAll (.inl hwaiting) more
    refine ⟨hresults, ?_⟩
    rcases htwins with hend | ⟨old, s, hend⟩
    · exact .inl ⟨hend.sent.symm, hend.outbox.symm⟩
    · obtain ⟨new, hx, hy⟩ := hend.sent
      refine .inr ⟨⟨old, s, new, ?_, ?_⟩, hend.outbox⟩
      · rw [hx, List.append_assoc]
        rfl
      · rw [hy, List.append_assoc]
        rfl

/-- A session is to be deleted while its creation is under way, and one is reported that has no
topic. -/
def nameless : Aside where
  entity := "r::d::a"
  before := [.submit (.deleteSession ⟨"a", ""⟩)]
  command := .relay (.createSession ⟨"", "B"⟩)
  after := [.count]
  reply := .silence

theorem refusal_invisible_nameless :
    let settings : CommandSettings := { targetRouter := "r", retryDelay := 2 }
    let builder : CommandBuilder :=
      Namer.builder ⟨"r", { domainRoute := "d", sessionName := "{topic}", sessionConfig := "c" }⟩
    let k : Resource := .ofSession ⟨"a", ""⟩
    let e : CommandError := .naming .emptyTopic
    let c : Outbox.Command := .submit (.createSession ⟨"", ""⟩)
    let first := start (.new settings builder) [nameless.line]
    let z := (first.ask (.submit ⟨.create, k⟩)).1
    let i : Intent := ⟨⟨0, k, .create "r" "r::d" "a" "c", 0⟩, 0, 0, false⟩
    let more : List Step := [.ask (.submit ⟨.create, k⟩), .advance 2]
    let x := runAll more first
    let y := runAll more { first with script := [nameless.rest] }
    Leads (fun _ => True) first z ∧ z.outbox.next? = some i ∧ i.canceled = false
      ∧ (z.outbox.runAll nameless.before).1.Refuses e nameless.command
      ∧ x.2 = y.2 ∧ Alike 1 x.1.outbox y.1.outbox
      ∧ first.outbox.Refuses e c
      ∧ (runAll more first).2 = (runAll (.ask c :: more) first).2.eraseIdx 0 := by
  intro settings builder k e c first z i more x y
  have hz : Leads (fun _ => True) first z := leads_ask trivial first
  have hi : z.outbox.next? = some i := by decide +kernel
  have hrefuses : (z.outbox.runAll nameless.before).1.Refuses e nameless.command := by
    show ((z.outbox.runAll nameless.before).1.submit _).2 = .error e
    decide +kernel
  have hfirst : first.outbox.Refuses e c := by
    show (first.outbox.submit _).2 = .error e
    decide +kernel
  obtain ⟨hstep, _, hduring⟩ := refusal_invisible settings builder [nameless.line]
  obtain ⟨hresults, hend⟩ := hduring [] nameless e [] [] z i rfl hz hi rfl hrefuses more
  obtain ⟨hremoved, _⟩ := hstep [] c e more hfirst
  -- by the end the command was given, and its naming error was counted
  have hcounted : x.1.outbox.tally.namingErrors ≠ y.1.outbox.tally.namingErrors := by
    decide +kernel
  have halike : Alike 1 x.1.outbox y.1.outbox := by
    refine (hend.resolve_left fun hsame => ?_).2
    have houtbox : x.1.outbox = y.1.outbox := hsame.2
    exact hcounted (by rw [houtbox])
  exact ⟨hz, hi, rfl, hrefuses, hresults, halike, hfirst, hremoved⟩

end Exchange

end RoutingSessions
