/-
  RoutingSessions.Proofs.Exchange.Cadence — when an order is tried.

  An order is tried on its beats, from the first one on, none left out and none taken
  twice, until it is acknowledged or overruled.

  That holds of attempts that overlap, as long as time passes only when nothing is left
  to do (`RoutingSessions.Proofs.Traffic.Cadence`).  In a run that is so: a pending order
  that is due is something to do, and the clock moves when all is done.  Runs are
  therefore taken apart here into moves of which those of the clock begin at rest, and
  each of these is patient traffic.

  Commands that come in while an attempt is under way belong to the move that is the
  attempt.  So an order may be placed, or overruled, within a move, and what is said of
  the time of such an event is said of two states with this time between which it falls.
  In traffic every command is an event of its own.

  Main statements:
    * `passes_runAll` — the clock of a run moves at rest only.
    * `Passes.patient` — so a run is traffic in which time passes at rest only.
    * `attemptsOn_of_acknowledged`, `attemptsOn_of_overruled` — what ends the cadence.
    * `exists_overruling` — every order that is overruled was so at one time.
    * `retry_cadence` — when an order is tried, in every run.
-/
import RoutingSessions.Proofs.Exchange.Recovery
import RoutingSessions.Proofs.Traffic.Cadence

namespace RoutingSessions

namespace Exchange

open Traffic (Path Sound Reaches Paced)

/-! ## §1. Time passes at rest. -/

/-- One thing happens, and it is not the clock that moves unless nothing is left to do. -/
structure Happens (x y : Exchange) : Prop where
  move : Move (fun _ => True) x y
  patient : x.outbox.clock < y.outbox.clock → x.outbox.next? = none

/-- What happens leads from the one state to the other. -/
def Passes : Exchange → Exchange → Prop := Relation.ReflTransGen Happens

section Passes

variable {x y z : Exchange} {order : Order}

theorem happens_of_clock_eq (hmove : Move (fun _ => True) x y)
    (hclock : y.outbox.clock = x.outbox.clock) : Happens x y :=
  ⟨hmove, fun hlt => absurd hlt (by rw [hclock]; exact Nat.lt_irrefl _)⟩

theorem clock_attempt (i : Intent) (x : Exchange) :
    (x.attempt i).outbox.clock = x.outbox.clock := by
  rw [outbox_attempt, Outbox.clock_conclude, asked, Outbox.clock_runAll]

theorem happens_process {i : Intent} (hi : x.outbox.next? = some i) : Happens x (x.process i) := by
  unfold process
  split
  next hc => exact happens_of_clock_eq (.forget hi hc) rfl
  next hc =>
    exact happens_of_clock_eq (.attempt hi (Bool.eq_false_iff.2 hc) fun _ _ => trivial)
      (clock_attempt i x)

/-- **The clock of a run moves at rest only.** -/
theorem passes_runAll (hrest : x.outbox.next? = none) (steps : List Step) :
    Passes x (runAll steps x).1 :=
  run_induction (P := Passes x)
    (fun _ _ hz hi => hz.tail (happens_process hi))
    (fun _ hz hidle => hz.tail ⟨.tick, fun _ => hidle⟩)
    (fun _ _ hz => hz.tail (happens_of_clock_eq (.script fun _ _ _ _ => trivial) rfl))
    (fun _ _ c _ z hz => hz.tail (happens_of_clock_eq (.ask trivial) (Outbox.clock_run c z.outbox)))
    .refl hrest

/-- What happens is patient traffic. -/
theorem Happens.patient_traffic (h : Happens x y) (hx : Sound x.traffic) :
    ∃ es, Path Traffic.Event.Patient es x.traffic y.traffic :=
  path_of_move hx h.move (fun _ _ hne heq => absurd heq hne)
    fun hlt _ => atRest_of_next? (h.patient hlt)

/-- **A run is traffic in which time passes at rest only.** -/
theorem Passes.patient (h : Passes x y) (hx : Sound x.traffic) :
    ∃ es, Path Traffic.Event.Patient es x.traffic y.traffic := by
  induction h with
  | refl => exact ⟨[], .nil⟩
  | tail _ hlast ih =>
    obtain ⟨first, hfirst⟩ := ih
    obtain ⟨last, hlast⟩ := hlast.patient_traffic (hx.path hfirst)
    exact ⟨first ++ last, hfirst.append hlast⟩

theorem Passes.reaches (h : Passes x y) (hx : Sound x.traffic) :
    Reaches x.traffic y.traffic := by
  obtain ⟨_, hpath⟩ := h.patient hx
  exact hpath.reaches

theorem Passes.paced (h : Passes x y) {delay : Nat} (hx : Paced delay x.traffic) :
    Paced delay y.traffic := by
  obtain ⟨_, hpath⟩ := h.patient hx.sound
  exact hx.path hpath

/-- What was sent remains so. -/
theorem Passes.sent_prefix (h : Passes x y) : x.sent <+: y.sent := by
  induction h with
  | refl => exact List.prefix_rfl
  | tail _ hlast ih =>
    refine ih.trans ?_
    cases hlast.move with
    | ask _ => exact List.prefix_rfl
    | forget _ _ => exact List.prefix_rfl
    | attempt _ _ _ => exact List.prefix_append _ _
    | tick => exact List.prefix_rfl
    | script _ => exact List.prefix_rfl

theorem Happens.clock_le (h : Happens x y) : x.outbox.clock ≤ y.outbox.clock := by
  cases h.move with
  | ask _ => exact Nat.le_of_eq (Outbox.clock_run _ _).symm
  | forget _ _ => exact Nat.le_refl _
  | attempt _ _ _ => exact Nat.le_of_eq (clock_attempt _ _).symm
  | tick => exact Nat.le_succ _
  | script _ => exact Nat.le_refl _

theorem Passes.clock_le (h : Passes x y) : x.outbox.clock ≤ y.outbox.clock := by
  induction h with
  | refl => exact Nat.le_refl _
  | tail _ hlast ih => exact Nat.le_trans ih hlast.clock_le

/-- An order that is new was placed since. -/
theorem Happens.placed_le (h : Happens x y) (hmem : order ∈ y.outbox.ledger) :
    order ∈ x.outbox.ledger ∨ x.outbox.clock ≤ order.placed := by
  cases h.move with
  | @ask c _ _ => exact Outbox.placed_run c hmem
  | forget _ _ => exact .inl hmem
  | attempt _ _ _ =>
    rw [outbox_attempt, Outbox.ledger_conclude] at hmem
    exact Outbox.placed_runAll _ hmem
  | tick => exact .inl hmem
  | script _ => exact .inl hmem

theorem Passes.placed_le (h : Passes x y) (hmem : order ∈ y.outbox.ledger) :
    order ∈ x.outbox.ledger ∨ x.outbox.clock ≤ order.placed := by
  induction h with
  | refl => exact .inl hmem
  | tail hxz hlast ih =>
    rcases hlast.placed_le hmem with hold | hlater
    · exact ih hold
    · exact .inr (Nat.le_trans (Passes.clock_le hxz) hlater)

end Passes

/-! ## §2. On the beat. -/

/-- The attempts made for an order, oldest first. -/
def attemptsOn (x : Exchange) (order : Order) : List Sent := x.sent.filter (·.order = order)

/-- How often an order was tried. -/
def tried (x : Exchange) (order : Order) : Nat := (x.attemptsOn order).length

section Attempts

variable {delay : Nat} {x y : Exchange} {order : Order}

theorem mem_attemptsOn {s : Sent} : s ∈ x.attemptsOn order ↔ s ∈ x.sent ∧ s.order = order := by
  unfold attemptsOn
  rw [List.mem_filter, decide_eq_true_eq]

/-- What was not acknowledged was tried without success every time. -/
theorem failed_of_not_acknowledged (hnot : ¬x.Acknowledged order) {s : Sent}
    (hs : s ∈ x.attemptsOn order) : s.reply.acknowledged = false := by
  obtain ⟨hmem, ho⟩ := mem_attemptsOn.1 hs
  exact Bool.eq_false_iff.2 fun hack => hnot ⟨s, hmem, ho, hack⟩

theorem attemptsOn_traffic (x : Exchange) (order : Order) :
    x.traffic.attemptsOn order = (x.attemptsOn order).map Attempt.ended := by
  unfold Traffic.attemptsOn attemptsOn traffic
  rw [List.filter_map]
  rfl

theorem tried_traffic (x : Exchange) (order : Order) : x.traffic.tried order = x.tried order := by
  unfold Traffic.tried tried
  rw [attemptsOn_traffic, List.length_map]

/-- Every attempt of an exchange has ended. -/
theorem ended_traffic (x : Exchange) (order : Order) : x.traffic.ended order = x.tried order := by
  rw [← tried_traffic]
  exact Traffic.ended_eq_tried fun _ ha _ => reply_ne_none_of_mem_traffic ha

theorem Passes.tried_le (h : Passes x y) : x.tried order ≤ y.tried order :=
  (h.sent_prefix.filter _).length_le

/-- The attempts fall on the first beats, each of them once. -/
theorem times_attemptsOn (h : Paced delay x.traffic) (order : Order) :
    (x.attemptsOn order).map (·.time) = (List.range (x.tried order)).map (order.beat delay) := by
  have htimes := h.times order
  rw [attemptsOn_traffic, tried_traffic, List.map_map] at htimes
  exact htimes

/-- At one instant an order is tried once at most. -/
theorem pairwise_time (h : Paced delay x.traffic) (hdelay : 0 < delay) (order : Order) :
    (x.attemptsOn order).Pairwise fun (s t : Sent) => s.time < t.time := by
  have hpairwise := h.pairwise_time hdelay order
  rw [attemptsOn_traffic, List.pairwise_map] at hpairwise
  exact hpairwise

/-- The attempts for an acknowledged order are some that failed and one that succeeded. -/
theorem exists_success (h : Sound x.traffic) (hack : x.Acknowledged order) :
    ∃ failed s, x.attemptsOn order = failed ++ [s]
      ∧ (∀ t ∈ failed, t.reply.acknowledged = false) ∧ s.reply.acknowledged = true := by
  obtain ⟨_, _, hsplit, hfailed, hsucc⟩ := h.exists_success (acknowledged_traffic.2 hack)
  rw [attemptsOn_traffic] at hsplit
  obtain ⟨failed, last, hall, rfl, hlast⟩ := List.map_eq_append_iff.1 hsplit
  obtain ⟨s, rfl, rfl⟩ := List.map_eq_singleton_iff.1 hlast
  exact ⟨failed, s, hall, fun t ht => hfailed _ (List.mem_map_of_mem ht), hsucc⟩

/-- **No beat is left out**: of a pending order at rest, every beat up to now was taken. -/
theorem lt_tried_iff (h : Paced delay x.traffic) (hdelay : 0 < delay)
    (hrest : x.outbox.next? = none) (hmem : order ∈ x.outbox.ledger)
    (hnot : ¬x.outbox.Overruled order) (hack : ¬x.Acknowledged order) (m : Nat) :
    m < x.tried order ↔ order.beat delay m ≤ x.outbox.clock := by
  rw [← tried_traffic]
  exact h.lt_tried_iff hdelay (atRest_of_next? hrest) hmem hnot
    (fun htraffic => hack (acknowledged_traffic.1 htraffic)) m

end Attempts

/-! ## §3. What ends the cadence. -/

section Ends

variable {delay : Nat} {x y z : Exchange} {order : Order}

/-- What is not tried more often was not tried again. -/
theorem Passes.attemptsOn_eq (h : Passes x y)
    (htried : y.traffic.tried order = x.traffic.tried order) :
    y.attemptsOn order = x.attemptsOn order := by
  rw [tried_traffic, tried_traffic] at htried
  exact ((h.sent_prefix.filter _).eq_of_length htried.symm).symm

/-- **What is acknowledged is not tried again.** -/
theorem attemptsOn_of_acknowledged (h : Sound x.traffic) (hack : x.Acknowledged order)
    (hxy : Passes x y) : y.attemptsOn order = x.attemptsOn order := by
  obtain ⟨_, _, hmore, hout⟩ :=
    h.acknowledged_reaches (acknowledged_traffic.2 hack) (hxy.reaches h)
  exact hxy.attemptsOn_eq (Traffic.tried_eq_of_orders hmore hout)

/-- **What is overruled is not tried again.** -/
theorem attemptsOn_of_overruled (h : Sound x.traffic) (hover : x.outbox.Overruled order)
    (hxy : Passes x y) : y.attemptsOn order = x.attemptsOn order := by
  obtain ⟨_, _, hmore, hout⟩ := h.overruled_reaches hover (hxy.reaches h)
  exact hxy.attemptsOn_eq (Traffic.tried_eq_of_orders hmore hout)

/-- Time passes for no order. -/
theorem Happens.clock_eq_of_overruled (h : Happens x y) (hnot : ¬x.outbox.Overruled order)
    (hover : y.outbox.Overruled order) : y.outbox.clock = x.outbox.clock := by
  cases h.move with
  | @ask c _ _ => exact Outbox.clock_run c x.outbox
  | forget _ _ => rfl
  | attempt _ _ _ => exact clock_attempt _ _
  | tick => exact absurd ⟨hover.mem_ledger, hover.why⟩ hnot
  | script _ => rfl

/-- Between the two states, at one time, a newer command or a shutdown overruled the order. -/
structure Overruling (order : Order) (x y : Exchange) : Prop where
  passes : Passes x y
  clock_eq : y.outbox.clock = x.outbox.clock
  before : ¬x.outbox.Overruled order
  after : y.outbox.Overruled order

/-- **An order that is overruled was tried on every beat before**, if it was not done with. -/
theorem Overruling.lt_tried (h : Overruling order y z) (hy : Paced delay y.traffic)
    (hdelay : 0 < delay) (hack : ¬y.Acknowledged order) {m : Nat}
    (hm : order.beat delay m < z.outbox.clock) : m < z.tried order := by
  rw [h.clock_eq] at hm
  by_cases hmem : order ∈ y.outbox.ledger
  · obtain ⟨i, hi, rfl, hc⟩ := hy.sound.accounts.exists_pending hmem h.before
      fun htraffic => hack (acknowledged_traffic.1 htraffic)
    have hahead : y.outbox.clock ≤ i.due := hy.armed.ahead i hi hc
    rw [hy.armed.due_eq i hi hc, ended_traffic] at hahead
    have hlt : m < y.tried i.order :=
      (Order.beat_lt hdelay i.order).1 (Nat.lt_of_lt_of_le hm hahead)
    exact Nat.lt_of_lt_of_le hlt (Passes.tried_le h.passes)
  · -- it was placed at this very time, so no beat was before
    have hplaced := (h.passes.placed_le h.after.mem_ledger).resolve_left hmem
    have hfirst : order.placed ≤ order.beat delay m := Nat.le_add_right _ _
    omega

/-- **Every order that is overruled was overruled at one time.** -/
theorem exists_overruling {first : Exchange} (hfirst : ¬first.outbox.Overruled order)
    (hx : Passes first x) (hover : x.outbox.Overruled order) :
    ∃ y z, Passes first y ∧ Overruling order y z ∧ Passes z x := by
  induction hx with
  | refl => exact absurd hover hfirst
  | @tail w x hw hlast ih =>
    by_cases hold : w.outbox.Overruled order
    · obtain ⟨y, z, hy, hyz, hz⟩ := ih hold
      exact ⟨y, z, hy, hyz, hz.tail hlast⟩
    · have hclock := hlast.clock_eq_of_overruled hold hover
      exact ⟨w, x, hw, ⟨.single hlast, hclock, hold, hover⟩, .refl⟩

end Ends

/-! ## §4. The cadence. -/

/-- **The cadence of attempts.**  Take any run, at any point: the states between two steps, where
the exchange is at rest, are among them.  An order bears the time at which it was accepted.  It was
tried on its first beats, each time once, and never twice at one instant.  If it is acknowledged,
then some attempts failed and the last one succeeded, and it is never tried again.  If it is not,
and was not overruled either, it was tried on every beat up to now.  If it was overruled, it was so
at one time: it was tried on no beat after that time, and is never tried again; and unless it had
been acknowledged, it was tried on every beat before. -/
theorem retry_cadence (settings : CommandSettings) (builder : CommandBuilder) (script : Script)
    (hdelay : 0 < settings.retryDelay) :
    let delay := settings.retryDelay
    let first := start (.new settings builder) script
    (∀ steps, Passes first (runAll steps first).1
        ∧ (runAll steps first).1.outbox.next? = none)
      ∧ ∀ x, Passes first x →
          (∀ y, Passes x y → ∀ order ∈ y.outbox.ledger, order ∉ x.outbox.ledger →
              x.outbox.clock ≤ order.placed ∧ order.placed ≤ y.outbox.clock)
            ∧ ∀ order ∈ x.outbox.ledger,
                ((x.attemptsOn order).map (·.time)
                    = (List.range (x.tried order)).map (order.beat delay)
                  ∧ (x.attemptsOn order).Pairwise fun (s t : Sent) => s.time < t.time)
                ∧ (x.Acknowledged order →
                    (∃ failed s, x.attemptsOn order = failed ++ [s]
                        ∧ (∀ t ∈ failed, t.reply.acknowledged = false)
                        ∧ s.reply.acknowledged = true)
                      ∧ ∀ y, Passes x y → y.attemptsOn order = x.attemptsOn order)
                ∧ (¬x.Acknowledged order → ∀ s ∈ x.attemptsOn order, s.reply.acknowledged = false)
                ∧ (¬x.Acknowledged order → ¬x.outbox.Overruled order → x.outbox.next? = none →
                    ∀ m, m < x.tried order ↔ order.beat delay m ≤ x.outbox.clock)
                ∧ (x.outbox.Overruled order →
                    ∃ y z, Passes first y ∧ Overruling order y z ∧ Passes z x)
                ∧ ∀ y z, Passes first y → Overruling order y z → Passes z x →
                    x.attemptsOn order = z.attemptsOn order
                      ∧ (¬y.Acknowledged order →
                          ∀ m, order.beat delay m < z.outbox.clock → m < x.tried order)
                      ∧ ∀ m < x.tried order, order.beat delay m ≤ z.outbox.clock := by
  intro delay first
  have hfirst : Paced delay first.traffic := Traffic.paced_new settings builder
  have hstart := next?_start settings builder script
  refine ⟨fun steps => ⟨passes_runAll hstart steps, next?_runAll hstart steps⟩, fun x hx => ?_⟩
  have hpaced : Paced delay x.traffic := hx.paced hfirst
  refine ⟨fun y hxy order hmem hnew => ?placed, fun order hmem => ?order⟩
  case placed =>
    exact ⟨(hxy.placed_le hmem).resolve_left hnew, (hxy.paced hpaced).armed.placed_le order hmem⟩
  case order =>
    refine ⟨⟨times_attemptsOn hpaced order, pairwise_time hpaced hdelay order⟩, fun hack => ?_,
      fun hack s hs => failed_of_not_acknowledged hack hs, fun hack hnot hrest => ?_,
      fun hover => ?_, fun y z hy hyz hzx => ?_⟩
    · exact ⟨exists_success hpaced.sound hack,
        fun y hxy => attemptsOn_of_acknowledged hpaced.sound hack hxy⟩
    · exact lt_tried_iff hpaced hdelay hrest hmem hnot hack
    · exact exists_overruling (fun h => nomatch h.mem_ledger) hx hover
    · have hz : Paced delay z.traffic := hyz.passes.paced (hy.paced hfirst)
      have hsame : x.attemptsOn order = z.attemptsOn order :=
        attemptsOn_of_overruled hz.sound hyz.after hzx
      have htried : x.tried order = z.tried order := congrArg List.length hsame
      rw [htried]
      refine ⟨hsame, fun hack m hm => hyz.lt_tried (hy.paced hfirst) hdelay hack hm,
        fun m hm => hz.beat_le_clock ?_⟩
      rwa [tried_traffic]

/-- The engine does not answer for the one session and breaks down, and it refuses the other. -/
def reluctant : Script :=
  [("r::d::a", ⟨none, .silence⟩), ("r::d::b", ⟨none, .response (.error "busy")⟩),
    ("r::d::a", ⟨none, .breakdown⟩), ("r::d::b", ⟨none, .response (.error "busy")⟩)]

/-- Of two sessions the one is created at the third attempt; the other is to be deleted again
before its third beat. -/
theorem retry_cadence_reluctant :
    let settings : CommandSettings := { targetRouter := "r", retryDelay := 2 }
    let builder : CommandBuilder :=
      Namer.builder
        ⟨"r", { domainRoute := "d", sessionName := "\x7btopic\x7d", sessionConfig := "c" }⟩
    let k : Resource := .ofSession ⟨"a", ""⟩
    let j : Resource := .ofSession ⟨"b", ""⟩
    let one : Order := ⟨0, k, .create "r" "r::d" "a" "c", 0⟩
    let other : Order := ⟨1, j, .create "r" "r::d" "b" "c", 0⟩
    let first := start (.new settings builder) reluctant
    let y := (runAll [.batch [.submit ⟨.create, k⟩, .submit ⟨.create, j⟩], .advance 3] first).1
    let z := (runAll [.ask (.submit ⟨.delete, j⟩)] y).1
    let x := (runAll [.advance 2] z).1
    0 < settings.retryDelay
      ∧ x.Acknowledged one ∧ (x.attemptsOn one).map (·.time) = [0, 2, 4]
      ∧ (∀ w, Passes x w → w.attemptsOn one = x.attemptsOn one)
      ∧ Overruling other y z ∧ ¬y.Acknowledged other ∧ z.outbox.clock = 3
      ∧ (x.attemptsOn other).map (·.time) = [0, 2]
      ∧ ∀ m, m < x.tried other ↔ other.beat settings.retryDelay m < z.outbox.clock := by
  intro settings builder k j one other first y z x
  obtain ⟨_, hpoints⟩ := retry_cadence settings builder reluctant (by decide)
  have hy : Passes first y := passes_runAll rfl _
  have hyz : Passes y z := passes_runAll (by decide +kernel) _
  have hzx : Passes z x := passes_runAll (by decide +kernel) _
  have hx : Passes first x := (hy.trans hyz).trans hzx
  have hack : x.Acknowledged one :=
    show ∃ s ∈ x.sent, s.order = one ∧ s.reply.acknowledged = true by decide +kernel
  have hoverruling : Overruling other y z := by
    refine ⟨hyz, by decide +kernel, fun hover => ?_, by decide +kernel, .inl (by decide +kernel)⟩
    have hlast : y.outbox.latest? j = some other := by decide +kernel
    have hopen : y.outbox.isShutDown = false := by decide +kernel
    rcases hover.why with hother | hs
    · exact hother hlast
    · rw [hopen] at hs
      cases hs
  have hpending : ¬y.Acknowledged other :=
    show ¬∃ s ∈ y.sent, s.order = other ∧ s.reply.acknowledged = true by decide +kernel
  obtain ⟨_, honce, _⟩ := (hpoints x hx).2 one (by decide +kernel)
  obtain ⟨_, _, _, _, _, hafter⟩ := (hpoints x hx).2 other (by decide +kernel)
  obtain ⟨_, hbefore, hlater⟩ := hafter y z hy hoverruling hzx
  refine ⟨by decide, hack, by decide +kernel, (honce hack).2, hoverruling, hpending,
    by decide +kernel, by decide +kernel, fun m => ⟨fun hm => ?_, hbefore hpending m⟩⟩
  -- the order was not tried at the time at which it was overruled
  have htried : x.tried other = 2 := by decide +kernel
  have hclock : z.outbox.clock = 3 := by decide +kernel
  rw [hclock]
  show 0 + m * 2 < 3
  omega

end Exchange

end RoutingSessions
