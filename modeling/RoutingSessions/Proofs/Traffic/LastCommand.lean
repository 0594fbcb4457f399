/-
  RoutingSessions.Proofs.Traffic.LastCommand — the last command wins, whatever overlaps.

  Attempts for different resources overlap as they like, commands come in at any moment,
  and an attempt may end long after its order was superseded.  None of this matters to a
  resource.  What is pending for it is the order last accepted, unless that order was
  acknowledged; attempts that start later are for no older order; and a late answer to
  an older order neither counts for the newer one nor removes it.

  The last point rests on attempts for one resource keeping apart.  As long as the older
  order is being tried, no attempt for the newer one has started, so the newer one cannot
  have been acknowledged.

  Main statements:
    * `Sound.lastAttempt?_of_acknowledged` — an order that is acknowledged was tried last.
    * `ticket_le_of_reaches` — no later attempt is for an older order.
    * `last_command_of_path` — what is pending and what was tried last, along every path
      without a shutdown.
-/
import RoutingSessions.Proofs.Traffic.Sound

namespace RoutingSessions

namespace Traffic

/-! ## §1. The last attempt for a resource. -/

/-- The last attempt for a resource. -/
def lastAttempt? (k : Resource) (t : Traffic) : Option Attempt := (t.attemptsFor k).getLast?

namespace Sound

variable {t : Traffic} (h : Sound t) {k : Resource} {order : Order}
include h

/-- **An order that is acknowledged was tried last**, if it is the last one for its resource. -/
theorem lastAttempt?_of_acknowledged (hlast : t.outbox.latest? k = some order)
    (hack : t.Acknowledged order) :
    ∃ a, t.lastAttempt? k = some a ∧ a.order = order ∧ a.succeeded = true := by
  obtain ⟨hmem, hk⟩ := Outbox.mem_of_latest? hlast
  obtain ⟨a, ha, rfl, hsucc⟩ := hack
  obtain ⟨before, after, hsplit⟩ := List.append_of_mem ha
  have hapart := h.apart
  rw [hsplit] at hapart
  obtain ⟨hfollows, _⟩ := List.pairwise_cons.1 (List.pairwise_append.1 hapart).2.1
  -- whatever follows would be for a newer order, or repeat one that has not succeeded
  have hafter : after.filter (fun b => b.order.resource = k) = [] := by
    refine List.filter_eq_nil_iff.2 fun b hb hbk => ?_
    have hbk : b.order.resource = k := of_decide_eq_true hbk
    have hbmem : b ∈ t.attempts := by
      rw [hsplit]
      exact List.mem_append_right _ (List.mem_cons_of_mem _ hb)
    have hle := h.accounts.ticket_le_of_latest? hlast (h.known b hbmem) hbk
    rcases (hfollows b hb (hk.trans hbk.symm)).2 with hlt | ⟨_, hfail⟩
    · exact absurd hlt (Nat.not_lt_of_le hle)
    · rw [hsucc] at hfail
      cases hfail
  refine ⟨a, ?_, rfl, hsucc⟩
  unfold lastAttempt? attemptsFor
  rw [hsplit, List.filter_append, List.filter_cons, if_pos (decide_eq_true hk), hafter]
  exact List.getLast?_concat

/-- While an order is being tried, no attempt for a newer one has started. -/
theorem ticket_le_of_underWay (hunder : t.UnderWay order) {a : Attempt} (ha : a ∈ t.attempts)
    (hk : a.order.resource = order.resource) : a.order.ticket ≤ order.ticket := by
  obtain ⟨before, b, after, hsplit, rfl, hnone, _⟩ := h.exists_underWay hunder
  have hapart := h.apart
  rw [hsplit] at hapart
  obtain ⟨_, hbehind, hfront⟩ := List.pairwise_append.1 hapart
  rw [hsplit, List.mem_append, List.mem_cons] at ha
  rcases ha with ha | rfl | ha
  · rcases (hfront a ha b List.mem_cons_self hk).2 with hlt | ⟨hsame, _⟩
    · exact Nat.le_of_lt hlt
    · exact Nat.le_of_eq (congrArg Order.ticket hsame)
  · exact Nat.le_refl _
  · -- what follows an attempt starts when it has ended
    exact absurd hnone ((List.pairwise_cons.1 hbehind).1 a ha hk.symm).1

/-- So a newer order is not acknowledged while an older one is being tried. -/
theorem not_acknowledged_of_newer {newer : Order} (hunder : t.UnderWay order)
    (hlast : t.outbox.latest? order.resource = some newer) (hne : newer ≠ order) :
    ¬t.Acknowledged newer := by
  obtain ⟨hmem, hk⟩ := Outbox.mem_of_latest? hlast
  intro hack
  obtain ⟨a, ha, rfl, _⟩ := hack
  have hle := h.ticket_le_of_underWay hunder ha hk
  obtain ⟨b, hb, rfl, _⟩ := hunder
  have hge := h.accounts.ticket_le_of_latest? hlast (h.known b hb) rfl
  exact hne (h.accounts.order_eq hmem (h.known b hb) (Nat.le_antisymm hle hge))

/-- **The answer to an older order does not touch the newer one**: it is pending then, and not
acknowledged. -/
theorem pending_of_newer {i : Intent} {newer : Order} (hunder : t.UnderWay i.order)
    (hs : t.outbox.isShutDown = false)
    (hlast : t.outbox.latest? i.order.resource = some newer) (hne : newer ≠ i.order)
    (reply : Reply) :
    (∃ j ∈ (t.finish i reply).outbox.intents, j.order = newer ∧ j.canceled = false)
      ∧ ¬(t.finish i reply).Acknowledged newer := by
  have hnot : ¬(t.finish i reply).Acknowledged newer := by
    rw [acknowledged_finish hunder]
    intro hend
    rcases hend with hack | ⟨heq, _⟩
    · exact h.not_acknowledged_of_newer hunder hlast hne hack
    · exact hne heq
  refine ⟨(h.finish hunder reply).accounts.covered ?_ i.order.resource newer ?_ hnot, hnot⟩
  · exact (Outbox.isShutDown_conclude i reply t.outbox).trans hs
  · exact (Outbox.latest?_congr (Outbox.ledger_conclude i reply t.outbox) _).trans hlast

end Sound

/-! ## §2. What is superseded. -/

/-- The orders for the resource below a ticket do not count any more, and the attempts from the
`m`-th on are not for them. -/
structure Past (k : Resource) (ticket m : Nat) (t : Traffic) : Prop where
  superseded : t.outbox.Superseded k ticket
  attempted : m ≤ t.attempts.length
  later : ∀ a ∈ t.attempts.drop m, a.order.resource = k → ticket ≤ a.order.ticket

namespace Past

variable {k : Resource} {ticket m : Nat} {t u : Traffic}

/-- What starts is not canceled, so it is not below the ticket. -/
theorem start (h : Past k ticket m t) {i : Intent} (hi : t.MayStart i) :
    Past k ticket m (t.start i) where
  superseded := h.superseded
  attempted := by
    show m ≤ (t.attempts ++ [_]).length
    rw [List.length_append]
    exact Nat.le_add_right_of_le h.attempted
  later a ha hk := by
    have ha : a ∈ (t.attempts ++ [_]).drop m := ha
    rw [List.drop_append_of_le_length h.attempted, List.mem_append, List.mem_singleton] at ha
    rcases ha with ha | rfl
    · exact h.later a ha hk
    · by_contra hlt
      have hcanceled := h.superseded.canceled i hi.mem_intents hk (Nat.lt_of_not_le hlt)
      rw [hi.live] at hcanceled
      cases hcanceled

/-- **What is superseded is not tried again**, whatever happens. -/
theorem move (h : Past k ticket m t) {e : Event} (hmove : Move e t u) : Past k ticket m u := by
  cases hmove with
  | ask c => exact ⟨h.superseded.run c, h.attempted, h.later⟩
  | tick => exact ⟨h.superseded.of_sublist rfl (.refl _), h.attempted, h.later⟩
  | forget _ _ _ =>
    exact ⟨h.superseded.of_sublist rfl (Outbox.marks_forget _ _), h.attempted, h.later⟩
  | start hi => exact h.start hi
  | @finish i reply _ _ =>
    refine ⟨h.superseded.of_sublist (Outbox.ledger_conclude _ _ _) (Outbox.marks_conclude _ _ _),
      ?attempted, ?later⟩
    case attempted =>
      show m ≤ (t.attempts.map _).length
      rw [List.length_map]
      exact h.attempted
    case later =>
      intro b hb hk
      have hb : b ∈ (t.attempts.map (answer i.order reply)).drop m := hb
      rw [← List.map_drop] at hb
      obtain ⟨a, ha, rfl⟩ := List.mem_map.1 hb
      rw [order_answer] at hk ⊢
      exact h.later a ha hk

end Past

/-- **No later attempt for a resource is for an order below the ticket**, if these do not count any
more. -/
theorem ticket_le_of_reaches {t u : Traffic} {k : Resource} {ticket : Nat}
    (h : t.outbox.Superseded k ticket) (htu : Reaches t u) :
    ∀ a ∈ u.attempts.drop t.attempts.length, a.order.resource = k → ticket ≤ a.order.ticket := by
  have hstart : Past k ticket t.attempts.length t := by
    refine ⟨h, Nat.le_refl _, ?_⟩
    rw [List.drop_length]
    exact fun a ha => nomatch ha
  exact (htu.preserves (P := Past k ticket t.attempts.length)
    (fun _ _ _ hv hmove => hv.move hmove) hstart).later

/-! ## §3. The last command wins. -/

/-- Only a shutdown shuts an outbox down. -/
theorem isShutDown_of_path {es : List Event} {t u : Traffic}
    (hpath : Path (fun e _ => e ≠ .ask .shutDown) es t u) :
    u.outbox.isShutDown = t.outbox.isShutDown := by
  refine hpath.preserves (P := fun v => v.outbox.isShutDown = t.outbox.isShutDown)
    (fun e v w hv hok hmove => ?_) rfl
  cases hmove with
  | ask c =>
    have hc : c ≠ .shutDown := fun heq => hok (congrArg Event.ask heq)
    exact (Outbox.isShutDown_run hc v.outbox).trans hv
  | tick => exact hv
  | forget _ _ _ => exact hv
  | start _ => exact hv
  | finish reply _ => exact (Outbox.isShutDown_conclude _ reply v.outbox).trans hv

/-- With nothing pending for a resource, its last order was acknowledged, its last attempt was for
this order, and no later attempt is for an order accepted by now. -/
theorem Sound.settled {t : Traffic} (h : Sound t) {k : Resource} {order : Order}
    (hs : t.outbox.isShutDown = false) (hlast : t.outbox.latest? k = some order)
    (hnot : k ∉ t.outbox.pendingKeys) :
    (∃ a, t.lastAttempt? k = some a ∧ a.order = order ∧ a.succeeded = true)
      ∧ ∀ u, Reaches t u → ∀ a ∈ u.attempts.drop t.attempts.length,
          a.order.resource = k → a.order ∉ t.outbox.ledger := by
  -- all orders for `k` are past
  have hidle : t.outbox.Superseded k t.outbox.ledger.length := by
    refine ⟨Nat.le_refl _, fun i hi hk _ => ?_⟩
    by_contra hc
    exact hnot (Outbox.mem_pendingKeys.2 ⟨i, hi, Bool.eq_false_iff.2 hc, hk⟩)
  have hack : t.Acknowledged order := by
    by_contra hack
    exact hnot ((h.accounts.mem_pendingKeys_iff hs k).2 ⟨order, hlast, hack⟩)
  refine ⟨h.lastAttempt?_of_acknowledged hlast hack, fun u htu a ha hk hin => ?_⟩
  have hle := ticket_le_of_reaches hidle htu a ha hk
  exact absurd (h.accounts.ticket_lt hin) (Nat.not_lt_of_le hle)

/-- **The last command wins, whatever overlaps.**  Along a path without a shutdown, the resources
with a pending order are those whose last accepted order was not acknowledged, each once.
Wherever events lead from there, no attempt that starts is for an order older than the last one for
its resource.  If the last one is not pending, the last attempt was for it and was acknowledged, and
no later attempt is for an order accepted by now.  If an older order is being tried still, its
attempt may end in any way: the newer one is pending then, and not acknowledged. -/
theorem last_command_of_path (settings : CommandSettings) (builder : CommandBuilder)
    {es : List Event} {t : Traffic}
    (hpath : Path (fun e _ => e ≠ .ask .shutDown) es (new settings builder) t) :
    (∀ k, k ∈ t.outbox.pendingKeys ↔
        ∃ order, t.outbox.latest? k = some order ∧ ¬t.Acknowledged order)
      ∧ t.outbox.pendingKeys.Nodup
      ∧ (∀ k order, t.outbox.latest? k = some order →
          ∀ u, Reaches t u → ∀ a ∈ u.attempts.drop t.attempts.length,
            a.order.resource = k → order.ticket ≤ a.order.ticket)
      ∧ (∀ k order, t.outbox.latest? k = some order → k ∉ t.outbox.pendingKeys →
          (∃ a, t.lastAttempt? k = some a ∧ a.order = order ∧ a.succeeded = true)
            ∧ ∀ u, Reaches t u → ∀ a ∈ u.attempts.drop t.attempts.length,
                a.order.resource = k → a.order ∉ t.outbox.ledger)
      ∧ ∀ (i : Intent) newer, t.UnderWay i.order →
          t.outbox.latest? i.order.resource = some newer → newer ≠ i.order →
          ∀ reply, (∃ j ∈ (t.finish i reply).outbox.intents, j.order = newer ∧ j.canceled = false)
            ∧ ¬(t.finish i reply).Acknowledged newer := by
  have h : Sound t := (sound_new settings builder).path hpath
  have hs : t.outbox.isShutDown = false := isShutDown_of_path hpath
  refine ⟨h.accounts.mem_pendingKeys_iff hs, h.accounts.nodup_pendingKeys,
    fun k order hlast u htu => ticket_le_of_reaches (h.accounts.superseded hlast) htu,
    fun k order hlast hnot => h.settled hs hlast hnot, ?_⟩
  intro i newer hunder hlast hne reply
  exact h.pending_of_newer hunder hs hlast hne reply

end Traffic

end RoutingSessions
