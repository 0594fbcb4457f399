/-
  RoutingSessions.Proofs.Traffic.Sound — attempts for one resource keep apart.

  While attempts for different resources overlap in whatever way, those for one resource
  follow one another.  The invariant says why: an attempt under way is for an order that
  the outbox still holds on to, so a newer order for its resource, which may be tried
  only when the older ones are done with, has to wait; and what is acknowledged is not
  pending any more, so nothing is tried again after a success.

  Main statements:
    * `Sound.move` — the invariant that every event keeps.
    * `Sound.blocks` — the attempts for a resource come in blocks, one order after the
      other.
    * `Sound.overruled_reaches`, `Sound.acknowledged_reaches` — what is overruled or
      acknowledged is not tried any more.
-/
import RoutingSessions.Proofs.Outbox.Fates
import RoutingSessions.Traffic

namespace RoutingSessions

/-! ## §1. What an outbox holds on to. -/

namespace Outbox

variable {o : Outbox}

/-- The end of an attempt drops no order but the one that was tried. -/
theorem exists_mem_intents_conclude {i j : Intent} (reply : Reply) (hj : j ∈ o.intents)
    (hne : j.order.ticket ≠ i.order.ticket) :
    ∃ j' ∈ (o.conclude i reply).intents, j'.order = j.order := by
  have hkept : ∀ tally notes,
      j ∈ ({ o with tally := tally, notes := notes }.forget i.order.ticket).intents :=
    fun _ _ => List.mem_filter.2 ⟨hj, decide_eq_true hne⟩
  rcases conclude_cases i reply o with
    ⟨_, tally, notes, heq⟩ | ⟨_, _, tally, notes, heq⟩ | ⟨_, _, tally, notes, heq⟩
  · rw [heq]
    exact ⟨j, hkept tally notes, rfl⟩
  · rw [heq]
    exact ⟨j, hkept tally notes, rfl⟩
  · -- put off: the others stay as they are
    rw [heq]
    refine ⟨j, List.mem_map.2 ⟨j, hj, ?_⟩, rfl⟩
    exact if_neg hne

/-- An acknowledgement counts unless the order was canceled. -/
theorem conclude_of_acknowledged {i : Intent} {reply : Reply}
    (hc : o.isCanceled i.order.ticket = false) (hack : reply.acknowledged = true) :
    o.conclude i reply = o.succeed i := by
  unfold conclude
  rw [if_neg (by rw [hc]; exact Bool.false_ne_true)]
  cases reply with
  | response r => exact if_pos hack
  | silence => cases hack
  | breakdown => cases hack

/-- Nothing opens an outbox again. -/
theorem isShutDown_run_of_isShutDown (c : Command) (hs : o.isShutDown = true) :
    (o.run c).1.isShutDown = true := by
  rcases run_cases c o with ⟨tally, notes, heq⟩ | ⟨change, request, _, _, hopen, _⟩ | ⟨_, heq⟩
  · rw [heq]
    exact hs
  · rw [hs] at hopen
    cases hopen
  · rw [heq]
    rfl

/-- The order was accepted and does not count any more: there is a newer one for its resource,
or the outbox is shut down. -/
structure Overruled (order : Order) (o : Outbox) : Prop where
  mem_ledger : order ∈ o.ledger
  why : o.latest? order.resource ≠ some order ∨ o.isShutDown = true

theorem Overruled.run {order : Order} (h : Overruled order o) (ho : o.Orderly) (c : Command) :
    Overruled order (o.run c).1 := by
  obtain ⟨more, hmore⟩ := ledger_run c o
  refine ⟨?mem_ledger, ?why⟩
  case mem_ledger =>
    rw [hmore]
    exact List.mem_append_left _ h.mem_ledger
  case why =>
    rcases h.why with hlast | hs
    · -- what is not the last order now will not be the last one later
      exact .inl fun hlater =>
        hlast ((ho.run c).latest?_of_append ho hmore h.mem_ledger hlater)
    · exact .inr (isShutDown_run_of_isShutDown c hs)

instance (order : Order) (o : Outbox) : Decidable (Overruled order o) :=
  decidable_of_iff
    (order ∈ o.ledger ∧ (o.latest? order.resource ≠ some order ∨ o.isShutDown = true))
    ⟨fun h => ⟨h.1, h.2⟩, fun h => ⟨h.mem_ledger, h.why⟩⟩

/-- What is overruled is not pending. -/
theorem Orderly.order_ne_of_overruled (h : Orderly o) {order : Order}
    (hover : o.Overruled order) {i : Intent} (hi : i ∈ o.intents) (hc : i.canceled = false) :
    i.order ≠ order := by
  rintro rfl
  rcases hover.why with hlast | hs
  · exact hlast (h.current i hi hc)
  · rw [h.isShutDown_eq_false hi hc] at hs
    cases hs

/-- An order that is held on to and was not answered is canceled if it is overruled, and only
then. -/
theorem Accounts.canceled_iff_overruled {answered : Order → Prop} (h : Accounts answered o)
    {i : Intent} (hi : i ∈ o.intents) (hnot : ¬answered i.order) :
    i.canceled = true ↔ o.Overruled i.order := by
  constructor
  · intro hc
    refine ⟨h.mem_ledger i hi, ?_⟩
    by_contra hlive
    rw [not_or, not_not] at hlive
    -- otherwise the outbox would have an intent for the order that is not canceled
    obtain ⟨j, hj, hji, hjc⟩ :=
      h.covered (Bool.eq_false_iff.2 hlive.2) i.order.resource i.order hlive.1 hnot
    rw [h.intent_eq hj hi (congrArg Order.ticket hji), hc] at hjc
    cases hjc
  · intro hover
    by_contra hc
    exact h.order_ne_of_overruled hover hi (Bool.eq_false_iff.2 hc) rfl

/-- An order that was accepted, and neither overruled nor answered, is pending. -/
theorem Accounts.exists_pending {answered : Order → Prop} (h : Accounts answered o) {order : Order}
    (hmem : order ∈ o.ledger) (hnot : ¬o.Overruled order) (hans : ¬answered order) :
    ∃ i ∈ o.intents, i.order = order ∧ i.canceled = false := by
  have hlast : o.latest? order.resource = some order := by
    by_contra hlast
    exact hnot ⟨hmem, .inl hlast⟩
  have hopen : o.isShutDown = false := Bool.eq_false_iff.2 fun hs => hnot ⟨hmem, .inr hs⟩
  exact h.covered hopen _ order hlast hans

theorem Overruled.of_sameBooks {order : Order} {p : Outbox} (h : Overruled order o)
    (hsame : SameBooks o p) : Overruled order p where
  mem_ledger := by
    rw [hsame.ledger]
    exact h.mem_ledger
  why := by
    rw [latest?_congr hsame.ledger, hsame.isShutDown]
    exact h.why

end Outbox

namespace Traffic

/-! ## §2. Single attempts. -/

section Attempts

variable {order : Order} {reply : Reply}

@[simp] theorem order_answer (a : Attempt) : (answer order reply a).order = a.order := by
  unfold answer
  split <;> rfl

@[simp] theorem time_answer (a : Attempt) : (answer order reply a).time = a.time := by
  unfold answer
  split <;> rfl

/-- What has ended stays as it is. -/
theorem answer_of_reply_ne {a : Attempt} (ha : a.reply ≠ none) : answer order reply a = a :=
  if_neg fun h => ha h.2

theorem map_answer_of_ended {l : List Attempt} (hl : ∀ a ∈ l, a.reply ≠ none) :
    l.map (answer order reply) = l :=
  (List.map_congr_left fun a ha => answer_of_reply_ne (hl a ha)).trans (List.map_id _)

/-- Where all that ended has succeeded, it still has when one more attempt succeeds. -/
theorem succeeded_answer {a : Attempt} (hack : reply.acknowledged = true)
    (ha : a.reply ≠ none → a.succeeded = true) :
    (answer order reply a).reply ≠ none → (answer order reply a).succeeded = true := by
  unfold answer
  split
  · exact fun _ => hack
  · exact ha

/-- What is under way after an answer was so before, for another order. -/
theorem reply_answer_eq_none {a : Attempt} :
    (answer order reply a).reply = none ↔ a.reply = none ∧ a.order ≠ order := by
  unfold answer
  split
  next h => simp [h.1]
  next h =>
    constructor
    · exact fun hnone => ⟨hnone, fun ho => h ⟨ho, hnone⟩⟩
    · exact fun hnone => hnone.1

/-- An answer acknowledges its own order, if anything is acknowledged by it. -/
theorem acknowledged_finish {i : Intent} {t : Traffic} (hi : t.UnderWay i.order) (o : Order) :
    (t.finish i reply).Acknowledged o
      ↔ t.Acknowledged o ∨ o = i.order ∧ reply.acknowledged = true := by
  constructor
  · intro hack
    obtain ⟨b, hb, rfl, hsucc⟩ := hack
    obtain ⟨a, ha, rfl⟩ := List.mem_map.1 hb
    rw [order_answer]
    unfold answer at hsucc
    split at hsucc
    next h => exact .inr ⟨h.1, hsucc⟩
    next => exact .inl ⟨a, ha, rfl, hsucc⟩
  · intro hack
    rcases hack with ⟨a, ha, rfl, hsucc⟩ | ⟨rfl, hsucc⟩
    · -- a success is not under way
      have hended : a.reply ≠ none := by
        intro hnone
        rw [Attempt.succeeded, hnone] at hsucc
        cases hsucc
      refine ⟨a, List.mem_map.2 ⟨a, ha, answer_of_reply_ne hended⟩, rfl, hsucc⟩
    · obtain ⟨a, ha, ho, hnone⟩ := hi
      refine ⟨answer i.order reply a, List.mem_map_of_mem ha, by rw [order_answer, ho], ?_⟩
      rw [answer, if_pos ⟨ho, hnone⟩]
      exact hsucc

theorem acknowledged_start {i : Intent} {t : Traffic} (o : Order) :
    (t.start i).Acknowledged o ↔ t.Acknowledged o := by
  constructor
  · intro hack
    obtain ⟨a, ha, ho, hsucc⟩ := hack
    rcases List.mem_append.1 ha with ha | ha
    · exact ⟨a, ha, ho, hsucc⟩
    · -- what starts now has no answer yet
      rw [List.mem_singleton.1 ha] at hsucc
      cases hsucc
  · intro hack
    obtain ⟨a, ha, ho, hsucc⟩ := hack
    exact ⟨a, List.mem_append_left _ ha, ho, hsucc⟩

end Attempts

/-! ## §3. The invariant. -/

/-- The attempts come in blocks, each for one order and in the order of acceptance; none but the
last of a block has succeeded. -/
def InBlocks (l : List Attempt) : Prop :=
  l.Pairwise fun a b =>
    a.order.ticket < b.order.ticket ∨ (a.order = b.order ∧ a.succeeded = false)

/-- A later attempt for the same resource starts when the earlier one has ended, and is for a
newer order or repeats one that has not succeeded. -/
def Follows (a b : Attempt) : Prop :=
  a.order.resource = b.order.resource →
    a.reply ≠ none
      ∧ (a.order.ticket < b.order.ticket ∨ (a.order = b.order ∧ a.succeeded = false))

/-- The accounts are right, what is under way is held on to, and attempts for one resource keep
apart. -/
structure Sound (t : Traffic) : Prop where
  accounts : t.outbox.Accounts t.Acknowledged
  known : ∀ a ∈ t.attempts, a.order ∈ t.outbox.ledger
  held : ∀ a ∈ t.attempts, a.reply = none → ∃ i ∈ t.outbox.intents, i.order = a.order
  apart : t.attempts.Pairwise Follows

theorem sound_new (settings : CommandSettings) (builder : CommandBuilder) :
    Sound (new settings builder) where
  accounts :=
    { toOrderly := Outbox.orderly_new settings builder
      known := by
        intro order hack
        obtain ⟨a, ha, _⟩ := hack
        cases ha
      unanswered := fun i hi => nomatch hi
      covered := fun _ k order hlast => by cases hlast }
  known a ha := nomatch ha
  held a ha := nomatch ha
  apart := .nil

namespace Sound

section Start

variable {t : Traffic} (h : Sound t) {i : Intent} (hi : t.MayStart i)
include h hi

/-- What may be tried is the order last accepted for its resource. -/
theorem latest?_of_mayStart : t.outbox.latest? i.order.resource = some i.order :=
  h.accounts.current i hi.mem_intents hi.live

theorem isShutDown_of_mayStart : t.outbox.isShutDown = false :=
  h.accounts.isShutDown_eq_false hi.mem_intents hi.live

/-- **No attempt starts while another one for the same resource is under way.** -/
theorem reply_ne_none_of_mayStart {a : Attempt} (ha : a ∈ t.attempts)
    (hk : a.order.resource = i.order.resource) : a.reply ≠ none := by
  intro hnone
  -- the attempt under way is for an order still held; it is not older, and not newer either
  obtain ⟨j, hj, hja⟩ := h.held a ha hnone
  have hge : i.order.ticket ≤ j.order.ticket := hi.oldest j hj (by rw [hja, hk])
  have hle : a.order.ticket ≤ i.order.ticket :=
    h.accounts.ticket_le_of_latest? (h.latest?_of_mayStart hi) (h.known a ha) hk
  have hsame : a.order = i.order := by
    refine h.accounts.order_eq (h.known a ha) (h.accounts.mem_ledger i hi.mem_intents) ?_
    rw [hja] at hge
    omega
  exact hi.idle a ha hsame hnone

/-- An attempt that starts follows all that started before it. -/
theorem follows_of_mayStart (time : Nat) {a : Attempt} (ha : a ∈ t.attempts) :
    Follows a ⟨time, i.order, none⟩ := by
  intro hk
  refine ⟨h.reply_ne_none_of_mayStart hi ha hk, ?_⟩
  have hle : a.order.ticket ≤ i.order.ticket :=
    h.accounts.ticket_le_of_latest? (h.latest?_of_mayStart hi) (h.known a ha) hk
  rcases Nat.lt_or_eq_of_le hle with hlt | heq
  · exact .inl hlt
  · -- the same order again: had it succeeded, it would not be pending
    have hsame : a.order = i.order :=
      h.accounts.order_eq (h.known a ha) (h.accounts.mem_ledger i hi.mem_intents) heq
    refine .inr ⟨hsame, Bool.eq_false_iff.2 fun hsucc => ?_⟩
    exact h.accounts.unanswered i hi.mem_intents hi.live ⟨a, ha, hsame, hsucc⟩

theorem start : Sound (t.start i) where
  accounts := by
    have hset : (t.start i).Acknowledged = t.Acknowledged :=
      funext fun o => propext (acknowledged_start o)
    rw [hset]
    exact h.accounts
  known a ha := by
    rcases List.mem_append.1 ha with ha | ha
    · exact h.known a ha
    · rw [List.mem_singleton.1 ha]
      exact h.accounts.mem_ledger i hi.mem_intents
  held a ha hnone := by
    rcases List.mem_append.1 ha with ha | ha
    · exact h.held a ha hnone
    · rw [List.mem_singleton.1 ha]
      exact ⟨i, hi.mem_intents, rfl⟩
  apart := by
    refine List.pairwise_append.2 ⟨h.apart, List.pairwise_singleton _ _, fun a ha b hb => ?_⟩
    rw [List.mem_singleton.1 hb]
    exact h.follows_of_mayStart hi _ ha

end Start

variable {e : Event} {t u : Traffic}

theorem ask (h : Sound t) (c : Outbox.Command) : Sound (t.ask c) where
  accounts := h.accounts.run c
  known a ha := by
    obtain ⟨more, hmore⟩ := Outbox.ledger_run c t.outbox
    show a.order ∈ (t.outbox.run c).1.ledger
    rw [hmore]
    exact List.mem_append_left _ (h.known a ha)
  held a ha hnone := by
    obtain ⟨i, hi, hia⟩ := h.held a ha hnone
    obtain ⟨j, hj, hji, _⟩ := Outbox.exists_intent_run c hi
    exact ⟨j, hj, hji.trans hia⟩
  apart := h.apart

theorem forget (h : Sound t) {i : Intent} (hi : i ∈ t.outbox.intents) (hc : i.canceled = true)
    (hidle : ¬t.UnderWay i.order) : Sound (t.forget i) where
  accounts := by
    -- tickets are unique, so the intent that goes is the canceled one
    refine h.accounts.forget h.accounts.known (fun _ => id) (fun _ => .inl) fun j hj ht hjc => ?_
    have hij := h.accounts.intent_eq hj hi ht
    rw [hij, hc] at hjc
    cases hjc
  known := h.known
  held a ha hnone := by
    obtain ⟨j, hj, hja⟩ := h.held a ha hnone
    refine ⟨j, List.mem_filter.2 ⟨hj, decide_eq_true fun ht => hidle ?_⟩, hja⟩
    -- otherwise the attempt under way would be for the order that goes
    have hij := h.accounts.intent_eq hj hi ht
    exact ⟨a, ha, by rw [← hja, hij], hnone⟩
  apart := h.apart

theorem finish (h : Sound t) {i : Intent} (hi : t.UnderWay i.order) (reply : Reply) :
    Sound (t.finish i reply) := by
  have hin : i.order ∈ t.outbox.ledger := by
    obtain ⟨a, ha, ho, _⟩ := hi
    rw [← ho]
    exact h.known a ha
  refine ⟨?accounts, ?known, ?held, ?apart⟩
  case accounts =>
    have hset : (t.finish i reply).Acknowledged = fun o =>
        t.Acknowledged o ∨ o = i.order ∧ reply.acknowledged = true :=
      funext fun o => propext (acknowledged_finish hi o)
    rw [hset]
    exact h.accounts.conclude hin reply
  case known =>
    intro b hb
    obtain ⟨a, ha, rfl⟩ := List.mem_map.1 hb
    rw [order_answer]
    show a.order ∈ (t.outbox.conclude i reply).ledger
    rw [Outbox.ledger_conclude]
    exact h.known a ha
  case held =>
    intro b hb hnone
    obtain ⟨a, ha, rfl⟩ := List.mem_map.1 hb
    -- what is under way still is for another order, and that one stays
    obtain ⟨hanone, hne⟩ := reply_answer_eq_none.1 hnone
    obtain ⟨j, hj, hja⟩ := h.held a ha hanone
    have hticket : j.order.ticket ≠ i.order.ticket := by
      intro ht
      rw [hja] at ht
      exact hne (h.accounts.order_eq (h.known a ha) hin ht)
    obtain ⟨j', hj', horder⟩ := Outbox.exists_mem_intents_conclude reply hj hticket
    exact ⟨j', hj', by rw [horder, hja, order_answer]⟩
  case apart =>
    refine List.pairwise_map.2 (h.apart.imp fun {a b} hab => ?_)
    unfold Follows
    rw [order_answer, order_answer]
    intro hk
    -- an attempt that is followed has ended, so the answer is not to it
    obtain ⟨hended, hnext⟩ := hab hk
    rw [answer_of_reply_ne hended]
    exact ⟨hended, hnext⟩

/-- What is under way for an order is one attempt, and an answer changes no other. -/
theorem exists_underWay (h : Sound t) {order : Order} (hunder : t.UnderWay order) :
    ∃ before a after, t.attempts = before ++ a :: after ∧ a.order = order ∧ a.reply = none
      ∧ ∀ reply, t.attempts.map (answer order reply)
        = before ++ { a with reply := some reply } :: after := by
  obtain ⟨a, ha, ho, hnone⟩ := hunder
  obtain ⟨before, after, hsplit⟩ := List.append_of_mem ha
  have hapart := h.apart
  rw [hsplit] at hapart
  obtain ⟨_, hbehind, hfront⟩ := List.pairwise_append.1 hapart
  refine ⟨before, a, after, hsplit, ho, hnone, fun reply => ?_⟩
  -- the attempts before it have ended, and the ones behind it are for other resources
  have hbefore : before.map (answer order reply) = before := by
    refine (List.map_congr_left fun b hb => ?_).trans (List.map_id _)
    refine if_neg fun hsame => ?_
    exact (hfront b hb a List.mem_cons_self (by rw [hsame.1, ho])).1 hsame.2
  have hafter : after.map (answer order reply) = after := by
    refine (List.map_congr_left fun b hb => ?_).trans (List.map_id _)
    refine if_neg fun hsame => ?_
    exact ((List.pairwise_cons.1 hbehind).1 b hb (by rw [hsame.1, ho])).1 hnone
  rw [hsplit, List.map_append, List.map_cons, hbefore, hafter, answer, if_pos ⟨ho, hnone⟩]

/-- What is under way has not succeeded. -/
theorem not_acknowledged_of_underWay (h : Sound t) {order : Order} (hunder : t.UnderWay order) :
    ¬t.Acknowledged order := by
  obtain ⟨before, a, after, hsplit, rfl, hnone, _⟩ := h.exists_underWay hunder
  have hapart := h.apart
  rw [hsplit] at hapart
  obtain ⟨_, hbehind, hfront⟩ := List.pairwise_append.1 hapart
  intro hack
  obtain ⟨b, hb, hsame, hsucc⟩ := hack
  rw [hsplit, List.mem_append, List.mem_cons] at hb
  rcases hb with hb | rfl | hb
  · -- an attempt that is followed by one for the same order has failed
    rcases (hfront b hb a List.mem_cons_self (by rw [hsame])).2 with hlt | ⟨_, hfail⟩
    · rw [hsame] at hlt
      exact Nat.lt_irrefl _ hlt
    · rw [hsucc] at hfail
      cases hfail
  · rw [Attempt.succeeded, hnone] at hsucc
    cases hsucc
  · exact ((List.pairwise_cons.1 hbehind).1 b hb (by rw [hsame])).1 hnone

/-- At rest nothing is canceled, and nothing is due. -/
theorem later_of_atRest (h : Sound t) (hrest : t.AtRest) {i : Intent}
    (hi : i ∈ t.outbox.intents) : i.canceled = false ∧ t.outbox.clock < i.due := by
  refine ⟨hrest.live i hi, Nat.lt_of_not_le fun hdue => ?_⟩
  refine hrest.waiting i ⟨hi, hrest.live i hi, hdue, fun j hj hk => ?_, fun a ha _ =>
    hrest.idle a ha⟩
  -- another order for the resource would be the last one for it as well
  have hlast := h.accounts.current j hj (hrest.live j hj)
  rw [hk, h.accounts.current i hi (hrest.live i hi)] at hlast
  exact Nat.le_of_eq (congrArg Order.ticket (Option.some.inj hlast))

/-- Where nothing is canceled, an attempt that is acknowledged counts as a success. -/
theorem outbox_finish (h : Sound t) {i : Intent} (hi : t.UnderWay i.order)
    (hlive : ∀ j ∈ t.outbox.intents, j.canceled = false) {reply : Reply}
    (hack : reply.acknowledged = true) : (t.finish i reply).outbox = t.outbox.succeed i := by
  obtain ⟨a, ha, horder, hnone⟩ := hi
  obtain ⟨j, hj, hja⟩ := h.held a ha hnone
  refine Outbox.conclude_of_acknowledged ?_ hack
  rw [← horder, ← hja, h.accounts.isCanceled_eq hj]
  exact hlive j hj

/-- The end of an attempt leaves one attempt less under way. -/
theorem underWayCount_finish (h : Sound t) {i : Intent} (hi : t.UnderWay i.order)
    (reply : Reply) : (t.finish i reply).underWayCount + 1 = t.underWayCount := by
  obtain ⟨before, a, after, hsplit, _, hnone, hanswer⟩ := h.exists_underWay hi
  unfold underWayCount Traffic.finish
  rw [hanswer reply, hsplit]
  simp only [List.countP_append, List.countP_cons, hnone, Option.isNone_none, Option.isNone_some,
    Bool.false_eq_true, if_true, if_false]
  omega

/-- **Every event keeps the traffic sound.** -/
theorem move (h : Sound t) (hmove : Move e t u) : Sound u := by
  cases hmove with
  | ask c => exact h.ask c
  | tick => exact ⟨h.accounts.of_marks rfl rfl rfl, h.known, h.held, h.apart⟩
  | forget hi hc hidle => exact h.forget hi hc hidle
  | start hi => exact h.start hi
  | finish reply hi => exact h.finish hi reply

theorem reaches (h : Sound t) (htu : Reaches t u) : Sound u :=
  htu.preserves (fun _ _ _ hs hmove => hs.move hmove) h

theorem path {ok : Event → Traffic → Prop} {es : List Event} (h : Sound t)
    (htu : Path ok es t u) : Sound u := h.reaches htu.reaches

/-- **The attempts for a resource come in blocks.** -/
theorem blocks (h : Sound t) (k : Resource) : InBlocks (t.attemptsFor k) := by
  refine (h.apart.filter _).imp_of_mem fun {a b} ha hb hab => ?_
  have hak : a.order.resource = k := of_decide_eq_true (List.mem_filter.1 ha).2
  have hbk : b.order.resource = k := of_decide_eq_true (List.mem_filter.1 hb).2
  exact (hab (hak.trans hbk.symm)).2

/-! ## §4. What is not tried any more. -/

/-- **What keeps an order from being tried, and is kept up by every event, keeps it from being
tried for good.** -/
theorem spares_reaches {P : Traffic → Prop} {order : Order}
    (hkeep : ∀ e v w, Sound v → P v → Move e v w → P w)
    (hspare : ∀ v i, Sound v → P v → v.MayStart i → i.order ≠ order)
    (h : Sound t) (hP : P t) (htu : Reaches t u) :
    P u ∧ ∃ more, u.attempts.map (·.order) = t.attempts.map (·.order) ++ more ∧ order ∉ more := by
  refine (htu.preserves (P := fun v => Sound v ∧ P v
    ∧ ∃ more, v.attempts.map (·.order) = t.attempts.map (·.order) ++ more ∧ order ∉ more)
    (fun e v w hv hmove => ?_) ⟨h, hP, [], (List.append_nil _).symm, List.not_mem_nil⟩).2
  obtain ⟨hsound, hPv, more, hmore, hout⟩ := hv
  refine ⟨hsound.move hmove, hkeep e v w hsound hPv hmove, ?_⟩
  cases hmove with
  | ask c => exact ⟨more, hmore, hout⟩
  | tick => exact ⟨more, hmore, hout⟩
  | forget _ _ _ => exact ⟨more, hmore, hout⟩
  | @start i _ hi =>
    refine ⟨more ++ [i.order], ?_, ?_⟩
    · rw [← List.append_assoc, ← hmore]
      exact List.map_append
    · rw [List.mem_append, List.mem_singleton]
      exact fun hin => hin.elim hout (hspare v i hsound hPv hi).symm
  | @finish i reply _ _ =>
    refine ⟨more, ?_, hout⟩
    show (v.attempts.map (answer i.order reply)).map (·.order) = _
    rw [List.map_map, ← hmore]
    exact List.map_congr_left fun a _ => order_answer a

end Sound

/-- What is overruled stays so. -/
theorem overruled_move {e : Event} {t u : Traffic} (h : t.outbox.Orderly) {order : Order}
    (hover : t.outbox.Overruled order) (hmove : Move e t u) : u.outbox.Overruled order := by
  cases hmove with
  | ask c => exact hover.run h c
  | tick => exact hover.of_sameBooks ⟨rfl, rfl, rfl, rfl⟩
  | forget _ _ _ => exact hover.of_sameBooks ⟨rfl, rfl, rfl, rfl⟩
  | start _ => exact hover
  | @finish i reply _ _ =>
    exact hover.of_sameBooks (Outbox.sameBooks_conclude i reply t.outbox)

/-- **What is overruled is not tried any more**, wherever events lead. -/
theorem Sound.overruled_reaches {t u : Traffic} (h : Sound t) {order : Order}
    (hover : t.outbox.Overruled order) (htu : Reaches t u) :
    u.outbox.Overruled order
      ∧ ∃ more, u.attempts.map (·.order) = t.attempts.map (·.order) ++ more
          ∧ order ∉ more :=
  spares_reaches (P := fun v => v.outbox.Overruled order)
    (fun _ _ _ hv hover hmove => overruled_move hv.accounts.toOrderly hover hmove)
    (fun _ _ hv hover hi => hv.accounts.order_ne_of_overruled hover hi.mem_intents hi.live)
    h hover htu

/-- What is acknowledged stays so. -/
theorem acknowledged_move {e : Event} {t u : Traffic} {order : Order} (hack : t.Acknowledged order)
    (hmove : Move e t u) : u.Acknowledged order := by
  cases hmove with
  | ask c => exact hack
  | tick => exact hack
  | forget _ _ _ => exact hack
  | start _ => exact (acknowledged_start order).2 hack
  | finish reply hi => exact (acknowledged_finish hi order).2 (.inl hack)

/-- **What is acknowledged is not tried any more**, wherever events lead. -/
theorem Sound.acknowledged_reaches {t u : Traffic} (h : Sound t) {order : Order}
    (hack : t.Acknowledged order) (htu : Reaches t u) :
    u.Acknowledged order
      ∧ ∃ more, u.attempts.map (·.order) = t.attempts.map (·.order) ++ more
          ∧ order ∉ more :=
  spares_reaches (P := fun v => v.Acknowledged order)
    (fun _ _ _ _ hack hmove => acknowledged_move hack hmove)
    (fun _ i hv hack hi heq =>
      hv.accounts.unanswered i hi.mem_intents hi.live (heq ▸ hack)) h hack htu

end Traffic

end RoutingSessions
