/-
  RoutingSessions.Proofs.Exchange.Traffic — exchanges as traffic.

  An exchange makes one attempt after the other, oldest order first, and lets time pass
  only when nothing is left to do.  That is one of the many orders in which the events
  of traffic may come.  Runs of an exchange are the traffic in which each attempt ends
  before anything else starts, apart from the commands that it leads to; so what holds
  of all traffic holds of them.  That time passes at rest only is made use of in
  `RoutingSessions.Proofs.Exchange.Cadence`.

  Main statements:
    * `mayStart_of_next?` — what an exchange tries may be tried.
    * `path_drain` — what is done in an instant, event by event.
    * `path_of_move`, `reaches_of_leads` — a run of an exchange is traffic.
    * `send_discipline` — who is sent when, for all traffic and so for every run.
-/
import RoutingSessions.Proofs.Exchange.Rest
import RoutingSessions.Proofs.Traffic.Sound

namespace RoutingSessions

/-! ## §1. Kinds of scripts. -/

/-- The commands and the replies in the script are of some kind. -/
def Script.Keeps (okc : Outbox.Command → Prop) (okr : Reply → Prop) (script : Script) : Prop :=
  ∀ line ∈ script, okr line.2.reply ∧ ∀ c ∈ line.2.commands, okc c

namespace Script

/-- What is taken from a script stands in it, or the script says nothing. -/
theorem take_mem (entity : String) (script : Script) :
    (script.take entity).1 = .acknowledged ∨ (entity, (script.take entity).1) ∈ script := by
  induction script with
  | nil => exact .inl rfl
  | cons line lines ih =>
    unfold take
    by_cases he : line.1 = entity
    · rw [if_pos he]
      exact .inr (he ▸ List.mem_cons_self)
    · rw [if_neg he]
      exact ih.imp id (List.mem_cons_of_mem _)

theorem take_sublist (entity : String) (script : Script) :
    (script.take entity).2.Sublist script := by
  induction script with
  | nil => exact .slnil
  | cons line lines ih =>
    unfold take
    by_cases he : line.1 = entity
    · rw [if_pos he]
      exact List.sublist_cons_self line lines
    · rw [if_neg he]
      exact ih.cons_cons line

theorem Keeps.take {okc : Outbox.Command → Prop} {okr : Reply → Prop} {script : Script}
    (h : script.Keeps okc okr) (hok : okr (.response .ok)) (entity : String) :
    okr (script.take entity).1.reply ∧ (∀ c ∈ (script.take entity).1.commands, okc c)
      ∧ (script.take entity).2.Keeps okc okr := by
  refine ⟨?reply, ?commands, fun line hline => h line ((take_sublist entity script).subset hline)⟩
  case reply =>
    rcases take_mem entity script with hdone | hmem
    · rw [hdone]
      exact hok
    · exact (h _ hmem).1
  case commands =>
    rcases take_mem entity script with hdone | hmem
    · rw [hdone]
      exact fun c hc => nomatch hc
    · exact (h _ hmem).2

theorem keeps_all (script : Script) : script.Keeps (fun _ => True) fun _ => True :=
  fun _ _ => ⟨trivial, fun _ _ => trivial⟩

end Script

/-! ## §2. Exchanges as traffic. -/

/-- An attempt that an exchange made. -/
def Attempt.ended (s : Sent) : Attempt := ⟨s.time, s.order, some s.reply⟩

namespace Exchange

open Traffic

/-- The attempts of an exchange, all of which have ended. -/
def traffic (x : Exchange) : Traffic := ⟨x.outbox, x.sent.map Attempt.ended⟩

theorem orders_traffic (x : Exchange) :
    x.traffic.attempts.map (·.order) = x.sent.map (·.order) := by
  unfold traffic
  rw [List.map_map]
  rfl

theorem reply_ne_none_of_mem_traffic {x : Exchange} {a : Attempt} (ha : a ∈ x.traffic.attempts) :
    a.reply ≠ none := by
  obtain ⟨s, _, rfl⟩ := List.mem_map.1 ha
  exact Option.some_ne_none s.reply

theorem not_underWay_traffic (x : Exchange) (order : Order) : ¬x.traffic.UnderWay order := by
  intro hunder
  obtain ⟨a, ha, _, hnone⟩ := hunder
  exact reply_ne_none_of_mem_traffic ha hnone

theorem sound_start (settings : CommandSettings) (builder : CommandBuilder) (script : Script) :
    Sound (start (.new settings builder) script).traffic := sound_new settings builder

/-- What is acknowledged in the traffic is so in the exchange. -/
theorem acknowledged_traffic {x : Exchange} {order : Order} :
    x.traffic.Acknowledged order ↔ x.Acknowledged order := by
  constructor
  · intro hack
    obtain ⟨a, ha, rfl, hsucc⟩ := hack
    obtain ⟨s, hs, rfl⟩ := List.mem_map.1 ha
    exact ⟨s, hs, rfl, hsucc⟩
  · intro hack
    obtain ⟨s, hs, rfl, hsucc⟩ := hack
    exact ⟨.ended s, List.mem_map_of_mem hs, rfl, hsucc⟩

/-- Traffic with no attempt under way is that of an exchange, whatever its script. -/
theorem exists_traffic_eq {t : Traffic} (hidle : ∀ a ∈ t.attempts, a.reply ≠ none)
    (script : Script) : ∃ x : Exchange, x.traffic = t ∧ x.script = script := by
  obtain ⟨outbox, attempts⟩ := t
  have hsent : ∃ sent : List Sent, sent.map Attempt.ended = attempts := by
    induction attempts with
    | nil => exact ⟨[], rfl⟩
    | cons a attempts ih =>
      obtain ⟨sent, rfl⟩ := ih fun b hb => hidle b (List.mem_cons_of_mem _ hb)
      obtain ⟨reply, hreply⟩ := Option.ne_none_iff_exists.1 (hidle a List.mem_cons_self)
      refine ⟨⟨a.time, a.order, none, reply⟩ :: sent, ?_⟩
      rw [List.map_cons, Attempt.ended, hreply]
  obtain ⟨sent, rfl⟩ := hsent
  exact ⟨⟨outbox, script, sent⟩, rfl, rfl⟩

/-- What an exchange tries next may be tried: the older orders for its resource would be canceled,
and they would have been forgotten first. -/
theorem mayStart_of_next? {x : Exchange} (h : Sound x.traffic) {i : Intent}
    (hi : x.outbox.next? = some i) (hc : i.canceled = false) : x.traffic.MayStart i := by
  have horderly : x.outbox.Orderly := h.accounts.toOrderly
  have hmem := mem_of_next? hi
  refine ⟨hmem, hc, ?due, ?oldest, fun a ha _ => reply_ne_none_of_mem_traffic ha⟩
  case due =>
    have hready : Outbox.isReady x.outbox.clock i = true := List.find?_some hi
    show i.due ≤ x.outbox.clock
    simpa [Outbox.isReady, hc] using hready
  case oldest =>
    intro j hj hk
    have hj : j ∈ x.outbox.intents := hj
    by_contra hlt
    have hlt : j.order.ticket < i.order.ticket := Nat.lt_of_not_le hlt
    -- the older order is not the last one for the resource, so it is canceled
    have hcanceled : j.canceled = true := by
      by_contra hjc
      have hjlast := horderly.current j hj (Bool.eq_false_iff.2 hjc)
      rw [hk, horderly.current i hmem hc] at hjlast
      rw [← Option.some.inj hjlast] at hlt
      exact Nat.lt_irrefl _ hlt
    have hready : Outbox.isReady x.outbox.clock j = true := by simp [Outbox.isReady, hcanceled]
    -- so it is ready, and stands before the first intent that is
    obtain ⟨_, before, after, hsplit, hbefore⟩ := List.find?_eq_some_iff_append.1 hi
    have hascending := horderly.ascending
    rw [hsplit] at hj hascending
    rcases List.mem_append.1 hj with hj | hj
    · have hnot := hbefore j hj
      rw [hready] at hnot
      cases hnot
    · rcases List.mem_cons.1 hj with rfl | hj
      · exact Nat.lt_irrefl _ hlt
      · have hgt := (List.pairwise_cons.1 (List.pairwise_append.1 hascending).2.1).1 j hj
        omega

/-- An exchange at rest is traffic at rest. -/
theorem atRest_of_next? {x : Exchange} (hrest : x.outbox.next? = none) : x.traffic.AtRest where
  idle _ ha := reply_ne_none_of_mem_traffic ha
  live _ hi := (Outbox.not_ready_of_next? hrest hi).1
  waiting _ hi := Nat.not_le_of_lt (Outbox.not_ready_of_next? hrest hi.mem_intents).2 hi.due

/-- The exchange while an attempt for the intent is under way, when these commands have come in. -/
def during (i : Intent) (cs : List Outbox.Command) (x : Exchange) : Traffic :=
  ⟨(x.outbox.runAll cs).1, x.traffic.attempts ++ [⟨x.outbox.clock, i.order, none⟩]⟩

theorem underWay_during (i : Intent) (cs : List Outbox.Command) (x : Exchange) :
    (x.during i cs).UnderWay i.order :=
  ⟨_, List.mem_append_right _ (List.mem_singleton.2 rfl), rfl, rfl⟩

/-- When it has ended, the attempt is one more of those that an exchange has made. -/
theorem finish_during (i : Intent) (x : Exchange) :
    (x.during i (x.outcome i).commands).finish i (x.outcome i).reply = (x.attempt i).traffic := by
  let now : Attempt := ⟨x.outbox.clock, i.order, none⟩
  -- the attempts that ended before are not touched by the answer
  have hold : x.traffic.attempts.map (answer i.order (x.outcome i).reply) = x.traffic.attempts := by
    refine (List.map_congr_left fun a ha => ?_).trans (List.map_id _)
    exact answer_of_reply_ne (reply_ne_none_of_mem_traffic ha)
  have hnew : answer i.order (x.outcome i).reply now
      = ⟨x.outbox.clock, i.order, some (x.outcome i).reply⟩ := if_pos ⟨rfl, rfl⟩
  have hattempts : (x.traffic.attempts ++ [now]).map (answer i.order (x.outcome i).reply)
      = (x.attempt i).traffic.attempts := by
    rw [List.map_append, hold, List.map_singleton, hnew]
    show _ = (x.sent ++ [_]).map Attempt.ended
    rw [List.map_append]
    rfl
  exact congrArg (Traffic.mk (x.attempt i).outbox) hattempts

/-! ## §3. Instants, event by event. -/

section Instants

variable {ok : Traffic.Event → Traffic → Prop} {okc : Outbox.Command → Prop} {okr : Reply → Prop}
  {x : Exchange}

/-- An attempt of an exchange starts, and commands come in. -/
theorem path_during (h : Sound x.traffic) {i : Intent} (hi : x.outbox.next? = some i)
    (hc : i.canceled = false) (hstart : ok (.start i) x.traffic) {cs : List Outbox.Command}
    (hcs : ∀ c ∈ cs, ∀ t, ok (.ask c) t) :
    Path ok (.start i :: cs.map .ask) x.traffic (x.during i cs) :=
  .cons hstart (.start (mayStart_of_next? h hi hc)) (path_askAll hcs (x.traffic.start i))

/-- What is done about an intent, event by event. -/
theorem path_process (h : Sound x.traffic) (hscript : x.script.Keeps okc okr)
    (hok : okr (.response .ok)) {i : Intent} (hi : x.outbox.next? = some i) :
    (∃ es, Path (fun e _ => e.Momentary okc okr) es x.traffic (x.process i).traffic)
      ∧ (x.process i).script.Keeps okc okr := by
  cases hc : i.canceled with
  | true =>
    have hprocess : x.process i = { x with outbox := x.outbox.forget i.order.ticket } := if_pos hc
    rw [hprocess]
    exact ⟨⟨[.forget i], .single trivial (.forget (mem_of_next? hi) hc (not_underWay_traffic x _))⟩,
      hscript⟩
  | false =>
    have hprocess : x.process i = x.attempt i := if_neg (by rw [hc]; exact Bool.false_ne_true)
    obtain ⟨hreply, hcommands, hrest⟩ := hscript.take hok i.order.request.entity
    have hstarts : Path (fun e _ => e.Momentary okc okr) _ x.traffic
        (x.during i (x.outcome i).commands) :=
      path_during h hi hc trivial fun c hmem _ => hcommands c hmem
    have hends : Path (fun e _ => e.Momentary okc okr) [.finish i (x.outcome i).reply]
        (x.during i (x.outcome i).commands) (x.attempt i).traffic := by
      rw [← finish_during]
      exact .single hreply (.finish _ (underWay_during i _ x))
    rw [hprocess]
    exact ⟨⟨_, hstarts.append hends⟩, hrest⟩

theorem path_drainWith (h : Sound x.traffic) (hscript : x.script.Keeps okc okr)
    (hok : okr (.response .ok)) (fuel : Nat) :
    (∃ es, Path (fun e _ => e.Momentary okc okr) es x.traffic (drainWith fuel x).traffic)
      ∧ (drainWith fuel x).script.Keeps okc okr := by
  induction fuel generalizing x with
  | zero => exact ⟨⟨[], .nil⟩, hscript⟩
  | succ fuel ih =>
    cases hi : x.outbox.next? with
    | none =>
      rw [drainWith_of_next? _ hi]
      exact ⟨⟨[], .nil⟩, hscript⟩
    | some i =>
      rw [drainWith_of_next?_eq_some fuel hi]
      obtain ⟨⟨first, hfirst⟩, hkeeps⟩ := path_process h hscript hok hi
      obtain ⟨⟨rest, hrest⟩, hlast⟩ := ih (h.path hfirst) hkeeps
      exact ⟨⟨first ++ rest, hfirst.append hrest⟩, hlast⟩

/-- **What is done in an instant, event by event.** -/
theorem path_drain (h : Sound x.traffic) (hscript : x.script.Keeps okc okr)
    (hok : okr (.response .ok)) :
    (∃ es, Path (fun e _ => e.Momentary okc okr) es x.traffic x.drain.traffic)
      ∧ x.drain.script.Keeps okc okr :=
  path_drainWith h hscript hok x.work

end Instants

/-! ## §4. Runs are traffic. -/

section Runs

variable {x y : Exchange}

/-- **What happens in an exchange is traffic**, and its events are permitted if all others than a
tick are, and a tick is where the clock moves. -/
theorem path_of_move {okc : Outbox.Command → Prop} {ok : Traffic.Event → Traffic → Prop}
    (h : Sound x.traffic) (hmove : Move okc x y) (hother : ∀ e t, e ≠ .tick → ok e t)
    (htick : x.outbox.clock < y.outbox.clock → ok .tick x.traffic) :
    ∃ es, Path ok es x.traffic y.traffic := by
  cases hmove with
  | @ask c _ _ => exact ⟨[.ask c], .single (hother _ _ nofun) (.ask c)⟩
  | @forget i _ hi hc =>
    exact ⟨[.forget i], .single (hother _ _ nofun)
      (.forget (mem_of_next? hi) hc (not_underWay_traffic x _))⟩
  | @attempt i _ hi hc _ =>
    obtain ⟨⟨es, hes⟩, _⟩ := path_process h x.script.keeps_all trivial hi
    have hprocess : x.process i = x.attempt i := if_neg (by rw [hc]; exact Bool.false_ne_true)
    rw [hprocess] at hes
    refine ⟨es, hes.mono fun e t hmomentary => hother e t fun heq => ?_⟩
    rw [heq] at hmomentary
    exact hmomentary
  | tick => exact ⟨[.tick], .single (htick (Nat.lt_succ_self _)) .tick⟩
  | script _ => exact ⟨[], .nil⟩

theorem reaches_of_move {ok : Outbox.Command → Prop} (h : Sound x.traffic)
    (hmove : Move ok x y) : Reaches x.traffic y.traffic :=
  path_of_move h hmove (fun _ _ _ => trivial) fun _ => trivial

/-- **Wherever a run of an exchange leads, traffic does.** -/
theorem reaches_of_leads (h : Sound x.traffic) (hxy : Leads (fun _ => True) x y) :
    Reaches x.traffic y.traffic := by
  refine hxy.preserves (P := fun z => Reaches x.traffic z.traffic) (fun z w hz hmove => ?_)
    (fun _ _ _ _ => trivial) (.refl _)
  exact hz.trans (reaches_of_move (h.reaches hz) hmove)

/-- Whatever the commands of a run are, the traffic stays sound. -/
theorem sound_leads {ok : Outbox.Command → Prop} (h : Sound x.traffic)
    (hscript : x.script.Permits ok) (hxy : Leads ok x y) : Sound y.traffic :=
  hxy.preserves (P := fun z => Sound z.traffic)
    (fun _ _ hz hmove => hz.reaches (reaches_of_move hz hmove)) hscript h

/-- Wherever a run leads, ledger and intents are in step. -/
theorem orderly_of_leads {settings : CommandSettings} {builder : CommandBuilder} {script : Script}
    (hx : Leads (fun _ => True) (start (.new settings builder) script) x) : x.outbox.Orderly :=
  (sound_leads (sound_start settings builder script) (fun _ _ _ _ => trivial)
    hx).accounts.toOrderly

end Runs

/-- Orders that several commands place and overrule at once are never tried. -/
theorem order_not_mem_of_batch {x : Exchange} (h : Sound x.traffic) (cs : List Outbox.Command)
    (more : List Step) {order : Order} (hnew : order ∉ x.outbox.ledger)
    (hover : (x.askAll cs).1.outbox.Overruled order) :
    order ∉ (runAll (.batch cs :: more) x).1.sent.map (·.order) := by
  have hask : Reaches x.traffic (x.askAll cs).1.traffic :=
    reaches_of_leads h (leads_askAll (fun _ _ => trivial) x)
  have hasked : Sound (x.askAll cs).1.traffic := h.reaches hask
  have hrest : Reaches (x.askAll cs).1.traffic (runAll (.batch cs :: more) x).1.traffic := by
    refine reaches_of_leads hasked ((leads_drain _).trans ?_)
    exact leads_runAll (fun step _ => Step.permits_all step) _
  obtain ⟨_, later, horders, hout⟩ := hasked.overruled_reaches hover hrest
  rw [← orders_traffic, horders, List.mem_append]
  intro hin
  rcases hin with hin | hin
  · -- giving commands starts no attempt, and what was tried before is in the ledger
    obtain ⟨a, ha, rfl⟩ := List.mem_map.1 hin
    exact hnew (h.known a ha)
  · exact hout hin

/-! ## §5. Who is sent when. -/

/-- **The discipline of sending.**  Every run of an exchange is traffic, and its attempts start as
attempts in traffic may.  In all traffic, however attempts overlap: an attempt starts only for the
order last accepted for its resource, which is not acknowledged, while the outbox is not shut
down and no other attempt for the resource is under way; the attempts for a resource come in
blocks, one for each order that is tried, in the order of acceptance, with no attempt after one
that succeeded; they are for orders that were accepted; and no attempt starts any more for an
order that was superseded, acknowledged or not, or that a shutdown met.  So what is superseded
within one batch is never tried. -/
theorem send_discipline (settings : CommandSettings) (builder : CommandBuilder) (script : Script)
    (steps : List Step) :
    let first := start (.new settings builder) script
    let x := (runAll steps first).1
    (Reaches first.traffic x.traffic
        ∧ x.traffic = ⟨x.outbox, x.sent.map Attempt.ended⟩)
      ∧ (∀ y i, Leads (fun _ => True) first y → y.outbox.next? = some i → i.canceled = false →
          Reaches first.traffic y.traffic ∧ y.traffic.MayStart i)
      ∧ (∀ t, Reaches first.traffic t →
          (∀ i, t.MayStart i → t.outbox.latest? i.order.resource = some i.order
              ∧ ¬t.Acknowledged i.order ∧ t.outbox.isShutDown = false
              ∧ ∀ a ∈ t.attempts, a.order.resource = i.order.resource → a.reply ≠ none)
            ∧ (∀ k, InBlocks (t.attemptsFor k))
            ∧ (∀ a ∈ t.attempts, a.order ∈ t.outbox.ledger)
            ∧ ∀ order, t.outbox.Overruled order → ∀ u, Reaches t u →
                ∃ more, u.attempts.map (·.order) = t.attempts.map (·.order) ++ more
                  ∧ order ∉ more)
      ∧ ∀ cs more order, order ∉ x.outbox.ledger → (x.askAll cs).1.outbox.Overruled order →
          order ∉ (runAll (.batch cs :: more) x).1.sent.map (·.order) := by
  intro first x
  have hfirst : Sound first.traffic := sound_new settings builder
  have hruns : Reaches first.traffic x.traffic :=
    reaches_of_leads hfirst (leads_runAll (fun step _ => Step.permits_all step) first)
  refine ⟨⟨hruns, rfl⟩, ?starts, ?overlaps, ?batch⟩
  case starts =>
    intro y i hy hi hc
    have hreaches : Reaches first.traffic y.traffic := reaches_of_leads hfirst hy
    exact ⟨hreaches, mayStart_of_next? (hfirst.reaches hreaches) hi hc⟩
  case overlaps =>
    intro t ht
    have hsound : Sound t := hfirst.reaches ht
    refine ⟨fun i hi => ?_, hsound.blocks, hsound.known, fun order hover u hu =>
      (hsound.overruled_reaches hover hu).2⟩
    exact ⟨hsound.latest?_of_mayStart hi,
      hsound.accounts.unanswered i hi.mem_intents hi.live,
      hsound.isShutDown_of_mayStart hi,
      fun a ha hk => hsound.reply_ne_none_of_mayStart hi ha hk⟩
  case batch =>
    intro cs more order hnew hover
    exact order_not_mem_of_batch (hfirst.reaches hruns) cs more hnew hover

/-- Of three commands for a session the last one is sent, and meanwhile the attempt for another
session may be under way. -/
theorem send_discipline_crossing :
    let builder : CommandBuilder :=
      Namer.builder
        ⟨"r", { domainRoute := "d", sessionName := "\x7btopic\x7d", sessionConfig := "c" }⟩
    let k : Resource := .ofSession ⟨"a", ""⟩
    let j : Resource := .ofSession ⟨"b", ""⟩
    let cs : List Outbox.Command := [.submit ⟨.create, k⟩, .submit ⟨.delete, k⟩,
      .submit ⟨.create, k⟩, .submit ⟨.create, j⟩]
    let create : Order := ⟨0, k, .create "r" "r::d" "a" "c", 0⟩
    let mine : Intent := ⟨{ create with ticket := 2 }, 0, 0, false⟩
    let other : Intent := ⟨⟨3, j, .create "r" "r::d" "b" "c", 0⟩, 0, 0, false⟩
    let first := start (.new { targetRouter := "r" } builder) []
    (first.askAll cs).1.outbox.Overruled create
      ∧ create ∉ (runAll [.batch cs] first).1.sent.map (·.order)
      ∧ (runAll [.batch cs] first).1.sent.map (·.order) = [mine.order, other.order]
      ∧ ∃ t, Reaches first.traffic t ∧ t.attempts.map (·.order) = [other.order, mine.order]
          ∧ t.UnderWay mine.order ∧ t.UnderWay other.order := by
  intro builder k j cs create mine other first
  have hover : (first.askAll cs).1.outbox.Overruled create :=
    ⟨by decide +kernel, .inl (by decide +kernel)⟩
  obtain ⟨_, _, _, hbatch⟩ := send_discipline { targetRouter := "r" } builder [] []
  refine ⟨hover, hbatch cs [] create (by decide +kernel) hover, by decide +kernel, ?_⟩
  let delete : Order := ⟨1, k, .delete "r" "r::d::a", 0⟩
  -- the other attempt starts; the canceled orders are forgotten, and the own attempt starts too
  let asked : Traffic := ⟨(first.outbox.runAll cs).1, []⟩
  let begun := asked.start other
  let cleared : Traffic :=
    { begun with outbox := (begun.outbox.forget create.ticket).forget delete.ticket }
  have hbegun : Traffic.Move (.start other) asked begun :=
    .start ⟨by decide +kernel, rfl, by decide +kernel, by decide +kernel, fun a ha => nomatch ha⟩
  have hfirst : Traffic.Move _ begun
      { begun with outbox := begun.outbox.forget create.ticket } :=
    .forget (i := ⟨create, 0, 0, true⟩) (by decide +kernel) rfl
      (show ¬∃ a ∈ begun.attempts, a.order = create ∧ a.reply = none by decide +kernel)
  have hsecond : Traffic.Move _ { begun with outbox := begun.outbox.forget create.ticket }
      cleared :=
    .forget (i := ⟨delete, 0, 0, true⟩) (by decide +kernel) rfl
      (show ¬∃ a ∈ begun.attempts, a.order = delete ∧ a.reply = none by decide +kernel)
  have hlast : Traffic.Move (.start mine) cleared (cleared.start mine) :=
    .start ⟨by decide +kernel, rfl, by decide +kernel, by decide +kernel, by decide +kernel⟩
  have hcommands : Path (fun _ _ => True) (cs.map .ask) first.traffic asked :=
    path_askAll (fun _ _ _ => trivial) first.traffic
  have hcleared : Reaches first.traffic cleared :=
    ((hcommands.reaches.tail hbegun).tail hfirst).tail hsecond
  refine ⟨cleared.start mine, hcleared.tail hlast, rfl, ?mine, ?other⟩
  case mine =>
    exact ⟨⟨cleared.outbox.clock, mine.order, none⟩,
      List.mem_append_right _ (List.mem_singleton.2 rfl), rfl, rfl⟩
  case other =>
    exact ⟨⟨asked.outbox.clock, other.order, none⟩,
      List.mem_append_left _ (List.mem_append_right _ (List.mem_singleton.2 rfl)), rfl, rfl⟩

end Exchange

end RoutingSessions
