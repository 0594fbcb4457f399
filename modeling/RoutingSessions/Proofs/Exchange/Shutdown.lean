/-
  RoutingSessions.Proofs.Exchange.Shutdown — a shutdown is final.

  A shutdown is one event of the traffic, and so is every other command: it comes before
  the shutdown or after it.

  What holds of traffic that is shut down holds of an exchange: between two things that
  happen in it no attempt is under way, and while an attempt gives its commands it is
  the only one.  A step goes on until nothing is left to do, so at the end of a step
  after a shutdown no order is left.

  Main statements:
    * `final_of_leads` — a shutdown between two things that happen in an exchange.
    * `final_during` — a shutdown while an attempt is under way.
    * `shutdown_final` — a shutdown at any moment of all traffic, and of every run.
-/
import RoutingSessions.Proofs.Exchange.Traffic
import RoutingSessions.Proofs.Traffic.Shutdown

namespace RoutingSessions

namespace Exchange

open Traffic

/-! ## §1. Exchanges that are shut down. -/

section Shutdown

variable {s : Traffic} {ended : Nat} {x z : Exchange}

theorem underWayCount_traffic (x : Exchange) : x.traffic.underWayCount = 0 :=
  List.countP_eq_zero.2 fun _ ha hnone =>
    reply_ne_none_of_mem_traffic ha (Option.isNone_iff_eq_none.1 hnone)

/-- In an exchange nothing is under way, so all attempts that were so have ended. -/
theorem final_traffic (h : Final s ended x.traffic) : Final s s.underWayCount x.traffic := by
  have hcount := h.underWay
  rw [underWayCount_traffic, Nat.add_zero] at hcount
  rwa [← hcount]

/-- **What is final stays so**, wherever a run leads. -/
theorem final_leads (h : Final s ended x.traffic) (hx : Sound x.traffic)
    (hxz : Leads (fun _ => True) x z) : Final s s.underWayCount z.traffic := by
  obtain ⟨_, hlater⟩ := h.reaches hx (reaches_of_leads hx hxz)
  exact final_traffic hlater

/-- A shutdown between two things that happen, or among the commands of a step. -/
theorem final_of_leads (hx : Sound x.traffic) (before after : List Outbox.Command)
    (hz : Leads (fun _ => True) (x.askAll (before ++ .shutDown :: after)).1 z) :
    Final (x.askAll before).1.traffic 0 z.traffic := by
  have hbefore : Sound (x.askAll before).1.traffic :=
    hx.reaches (reaches_of_leads hx (leads_askAll (fun _ _ => trivial) x))
  have hasked : Final (x.askAll before).1.traffic 0
      (x.askAll (before ++ .shutDown :: after)).1.traffic := by
    refine (Final.shutDown hbefore).of_outbox ?_
    exact .runAll_shutDown hx.accounts.toOrderly before after
  have hsound : Sound (x.askAll (before ++ .shutDown :: after)).1.traffic :=
    hx.reaches (reaches_of_leads hx (leads_askAll (fun _ _ => trivial) x))
  have hfinal := final_leads hasked hsound hz
  rwa [underWayCount_traffic] at hfinal

/-- While an attempt of an exchange gives its commands, nothing else is under way. -/
theorem underWayCount_during (i : Intent) (cs : List Outbox.Command) (x : Exchange) :
    (x.during i cs).underWayCount = 1 := by
  have hold := underWayCount_traffic x
  unfold underWayCount at hold ⊢
  unfold during
  rw [List.countP_append, hold]
  rfl

/-- **A shutdown while an attempt is under way.** -/
theorem final_during (hx : Sound x.traffic) {i : Intent} (hi : x.outbox.next? = some i)
    (hc : i.canceled = false) {before after : List Outbox.Command}
    (hcommands : (x.outcome i).commands = before ++ .shutDown :: after)
    (hz : Leads (fun _ => True) (x.attempt i) z) :
    Final (x.during i before) 1 z.traffic := by
  have hpath : ∀ cs, Path (fun _ _ => True) _ x.traffic (x.during i cs) := fun _ =>
    path_during hx hi hc trivial fun _ _ _ => trivial
  have hduring : ∀ cs, Sound (x.during i cs) := fun cs => hx.path (hpath cs)
  have hasked : Final (x.during i before) 0 (x.during i (x.outcome i).commands) := by
    rw [hcommands]
    refine (Final.shutDown (hduring before)).of_outbox ?_
    exact .runAll_shutDown hx.accounts.toOrderly before after
  -- the attempt ends, and then the run goes on
  have hway := underWay_during i (x.outcome i).commands x
  have hattempt : Final (x.during i before) 1 (x.attempt i).traffic := by
    rw [← finish_during]
    exact hasked.finish (hduring _) hway _
  have hsound : Sound (x.attempt i).traffic := by
    rw [← finish_during]
    exact (hduring _).finish hway _
  have hfinal := final_leads hattempt hsound hz
  rwa [underWayCount_during] at hfinal

end Shutdown

/-! ## §2. Shutdowns in all traffic, and in a run. -/

/-- **A shutdown is final**, at whatever moment it comes and however many attempts are under way
then.  Wherever traffic leads from there, nothing is pending, no attempt starts, and every command
for a change is refused and touches no order.  Successes, failures, timeouts and superseded orders
are not counted any more; of the attempts, those that were under way count, each when it ends, and
their outcomes are discarded.  Another shutdown changes nothing.  When nothing is left to do all of
them have ended and no order is left, and that can be reached from everywhere while no time passes.

A run of an exchange is traffic, and a shutdown may come between two things that happen in it, when
nothing is under way; among the commands of a step; or while an attempt is under way, which is then
the one attempt that counts.  At the end of a step after a shutdown no order is left. -/
theorem shutdown_final (settings : CommandSettings) (builder : CommandBuilder) (script : Script) :
    let first := start (.new settings builder) script
    (∀ s, Reaches first.traffic s → ∀ u, Reaches (s.ask .shutDown) u →
        (∃ ended, Final s ended u)
          ∧ (∀ i, ¬u.MayStart i)
          ∧ (∀ i reply, u.UnderWay i.order →
              (u.finish i reply).outbox = u.outbox.discard i)
          ∧ (u.AtRest → u.outbox.intents = [] ∧ Final s s.underWayCount u)
          ∧ ∃ es v, Path (fun e _ => e.Momentary (fun _ => False) fun _ => True) es u v
              ∧ v.AtRest)
      ∧ (∀ x, Leads (fun _ => True) first x →
          Reaches first.traffic x.traffic ∧ x.traffic.underWayCount = 0
            ∧ (∀ z, Leads (fun _ => True) (x.ask .shutDown).1 z → Final x.traffic 0 z.traffic)
            ∧ ∀ i before after, x.outbox.next? = some i → i.canceled = false →
                (x.outcome i).commands = before ++ .shutDown :: after →
                Reaches first.traffic (x.during i before)
                  ∧ (x.during i before).underWayCount = 1
                  ∧ ∀ z, Leads (fun _ => True) (x.attempt i) z →
                      Final (x.during i before) 1 z.traffic)
      ∧ ∀ steps, let x := (runAll steps first).1
          Leads (fun _ => True) first x
            ∧ (∀ more, Final x.traffic 0 (runAll (.ask .shutDown :: more) x).1.traffic)
            ∧ (∀ before after more, Final (x.askAll before).1.traffic 0
                (runAll (.batch (before ++ .shutDown :: after) :: more) x).1.traffic)
            ∧ (x.outbox.isShutDown = true →
                x.outbox.intents = [] ∧ x.traffic.AtRest
                  ∧ (x.run .closed).2 = .closed true true) := by
  intro first
  have hfirst : Sound first.traffic := sound_new settings builder
  refine ⟨?traffic, ?leads, ?steps⟩
  case traffic =>
    intro s hs u hu
    have hsound : Sound s := hfirst.reaches hs
    have hasked : Sound (s.ask .shutDown) := hsound.ask .shutDown
    obtain ⟨ended, hfinal⟩ := (Final.shutDown hsound).reaches hasked hu
    have husound : Sound u := hasked.reaches hu
    refine ⟨⟨ended, hfinal⟩, hfinal.not_mayStart,
      fun i reply hi => hfinal.conclude_eq_discard husound hi reply, fun hrest => ?_,
      hfinal.exists_rest husound⟩
    obtain ⟨hnil, hended⟩ := hfinal.atRest hrest
    rw [hended] at hfinal
    exact ⟨hnil, hfinal⟩
  case leads =>
    intro x hx
    have hreaches : Reaches first.traffic x.traffic := reaches_of_leads hfirst hx
    have hsound : Sound x.traffic := hfirst.reaches hreaches
    refine ⟨hreaches, underWayCount_traffic x, fun z hz => final_of_leads hsound [] [] hz, ?_⟩
    intro i before after hi hc hcommands
    have hduring : Path (fun _ _ => True) _ x.traffic (x.during i before) :=
      path_during hsound hi hc trivial fun _ _ _ => trivial
    exact ⟨hreaches.trans hduring.reaches, underWayCount_during i before x,
      fun z hz => final_during hsound hi hc hcommands hz⟩
  case steps =>
    intro steps x
    have hx : Leads (fun _ => True) first x := leads_steps steps first
    have hsound : Sound x.traffic := hfirst.reaches (reaches_of_leads hfirst hx)
    refine ⟨hx, fun more => ?_, fun before after more => ?_, fun hs => ?_⟩
    · exact final_of_leads hsound [] [] ((leads_drain _).trans (leads_steps more _))
    · exact final_of_leads hsound before after ((leads_drain _).trans (leads_steps more _))
    · have hrest : x.traffic.AtRest :=
        atRest_of_next? (next?_runAll (next?_start settings builder script) steps)
      have hnil : x.outbox.intents = [] :=
        hrest.intents_eq_nil_of_isShutDown hsound.accounts.toOrderly hs
      refine ⟨hnil, hrest, ?_⟩
      show Result.closed (x.outbox.isShutDown && x.outbox.intents.isEmpty) x.outbox.isShutDown = _
      rw [hs, hnil]
      rfl

/-- The attempts for two sessions are under way when all is shut down.  Both are acknowledged, and
count as attempts only. -/
theorem shutdown_final_crossing :
    let settings : CommandSettings := { targetRouter := "r" }
    let builder : CommandBuilder := Namer.builder
      ⟨"r", { domainRoute := "d", sessionName := "\x7btopic\x7d", sessionConfig := "c" }⟩
    let k : Resource := .ofSession ⟨"a", ""⟩
    let j : Resource := .ofSession ⟨"b", ""⟩
    let cs : List Outbox.Command := [.submit ⟨.create, k⟩, .submit ⟨.create, j⟩]
    let one : Intent := ⟨⟨0, k, .create "r" "r::d" "a" "c", 0⟩, 0, 0, false⟩
    let two : Intent := ⟨⟨1, j, .create "r" "r::d" "b" "c", 0⟩, 0, 0, false⟩
    let first := start (.new settings builder) []
    let asked : Traffic := { first.traffic with outbox := (first.outbox.runAll cs).1 }
    let s := (asked.start two).start one
    let u := ((s.ask .shutDown).finish one (.response .ok)).finish two (.response .ok)
    Reaches first.traffic s ∧ Reaches (s.ask .shutDown) u ∧ u.AtRest ∧ s.underWayCount = 2
      ∧ Final s 2 u ∧ u.outbox.intents = [] ∧ u.outbox.tally = { attempts := 2 } := by
  intro settings builder k j cs one two first asked s u
  have hasked : Path (fun _ _ => True) (cs.map .ask) first.traffic asked :=
    path_askAll (fun _ _ _ => trivial) first.traffic
  have htwo : Traffic.Move (.start two) asked (asked.start two) :=
    .start ⟨by decide +kernel, rfl, by decide +kernel, by decide +kernel, fun a ha => nomatch ha⟩
  have hone : Traffic.Move (.start one) (asked.start two) s :=
    .start ⟨by decide +kernel, rfl, by decide +kernel, by decide +kernel, by decide +kernel⟩
  have hs : Reaches first.traffic s := (hasked.reaches.tail htwo).tail hone
  -- both attempts end
  let halted := s.ask .shutDown
  let ended := halted.finish one (.response .ok)
  have hfirst : Traffic.Move (.finish one (.response .ok)) halted ended :=
    .finish _ ⟨⟨0, one.order, none⟩, by decide +kernel, rfl, rfl⟩
  have hsecond : Traffic.Move (.finish two (.response .ok)) ended u :=
    .finish _ ⟨⟨0, two.order, none⟩, by decide +kernel, rfl, rfl⟩
  have hu : Reaches halted u := (Reaches.single hfirst).tail hsecond
  obtain ⟨htraffic, _⟩ := shutdown_final settings builder []
  obtain ⟨_, hnone, _, hended, _⟩ := htraffic s hs u hu
  have hrest : u.AtRest := ⟨by decide +kernel, by decide +kernel, hnone⟩
  obtain ⟨hnil, hfinal⟩ := hended hrest
  have hcount : s.underWayCount = 2 := by decide +kernel
  rw [hcount] at hfinal
  exact ⟨hs, hu, hrest, hcount, hfinal, hnil, by decide +kernel⟩

end Exchange

end RoutingSessions
