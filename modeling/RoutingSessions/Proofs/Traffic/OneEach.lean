/-
  RoutingSessions.Proofs.Traffic.OneEach — one attempt for each change.

  Changes of different resources are relayed to an outbox with nothing left to do, and
  every attempt that ends is acknowledged.  Then each change for which there is a request
  becomes an order, and none supersedes another, because no two are for one resource.  So
  every order stays pending until it has been tried, and it is tried once.

  Attempts may start before all changes are relayed, and they may overlap in any way.
  The orders are placed in the order of the changes; the attempts come in any order.

  Main statements:
    * `Line.move` — what is kept while changes are relayed and orders are tried.
    * `Line.answered` — at rest, each change has been answered by one attempt.
    * `Answered.attemptsFor` — for each resource in the order of the changes.
-/
import RoutingSessions.Proofs.Outbox.Relaying
import RoutingSessions.Proofs.Traffic.Sound

namespace RoutingSessions

/-! ## §1. What is wanted. -/

/-- What an order is for, and what it asks. -/
def Order.demand (o : Order) : Resource × Request := (o.resource, o.request)

namespace Outbox

/-- The request that a change calls for, if there is one, with the resource of the change. -/
def wanted? (settings : CommandSettings) (builder : CommandBuilder) (c : Change) :
    Option (Resource × Request) :=
  (builder.request settings.targetRouter c.action c.resource).toOption.map (c.resource, ·)

section Wanted

variable {settings : CommandSettings} {builder : CommandBuilder} {c : Change} {o : Outbox}

/-- What is wanted for changes is for their resources. -/
theorem resources_wanted_sublist (settings : CommandSettings) (builder : CommandBuilder)
    (cs : List Change) :
    ((cs.filterMap (wanted? settings builder)).map (·.1)).Sublist (cs.map (·.resource)) := by
  induction cs with
  | nil => exact .slnil
  | cons c cs ih =>
    cases hw : wanted? settings builder c with
    | none =>
      rw [List.filterMap_cons_none hw]
      exact ih.cons c.resource
    | some a =>
      obtain ⟨request, _, rfl⟩ := Option.map_eq_some_iff.1 hw
      rw [List.filterMap_cons_some hw]
      exact ih.cons_cons c.resource

theorem nodup_resources_of_wanted {cs : List Change} (hnodup : (cs.map (·.resource)).Nodup)
    {placed : List Order}
    (hplaced : placed.map Order.demand = cs.filterMap (wanted? settings builder)) :
    (placed.map (·.resource)).Nodup := by
  have hsub := resources_wanted_sublist settings builder cs
  rw [← hplaced, List.map_map] at hsub
  exact hnodup.sublist hsub

/-- What is wanted for the changes of one resource. -/
theorem filter_wanted (cs : List Change) (k : Resource) :
    (cs.filterMap (wanted? settings builder)).filter (·.1 = k)
      = (cs.filter (·.resource = k)).filterMap (wanted? settings builder) := by
  induction cs with
  | nil => rfl
  | cons c cs ih =>
    have hskip : c.resource ≠ k → (c :: cs).filter (·.resource = k) = cs.filter (·.resource = k) :=
      fun hk => List.filter_cons_of_neg (by simpa using hk)
    have htake : c.resource = k →
        (c :: cs).filter (·.resource = k) = c :: cs.filter (·.resource = k) :=
      fun hk => List.filter_cons_of_pos (by simpa using hk)
    cases hw : wanted? settings builder c with
    | none =>
      rw [List.filterMap_cons_none hw, ih]
      by_cases hk : c.resource = k
      · rw [htake hk, List.filterMap_cons_none hw]
      · rw [hskip hk]
    | some a =>
      obtain ⟨request, _, rfl⟩ := Option.map_eq_some_iff.1 hw
      rw [List.filterMap_cons_some hw]
      by_cases hk : c.resource = k
      · rw [htake hk, List.filterMap_cons_some hw, List.filter_cons_of_pos (by simpa using hk), ih]
      · rw [hskip hk, List.filter_cons_of_neg (by simpa using hk), ih]

/-- An open outbox takes in a change for which there is a request. -/
theorem Serves.relay_of_wanted (h : Serves settings builder o) {a : Resource × Request}
    (hw : wanted? settings builder c = some a) :
    o.relay c = o.accept c.resource a.2 ∧ a.1 = c.resource := by
  obtain ⟨request, hrequest, rfl⟩ := Option.map_eq_some_iff.1 hw
  have hrequest : o.builder.request o.settings.targetRouter c.action c.resource = .ok request := by
    rw [h.builder_eq, h.settings_eq]
    cases hr : builder.request settings.targetRouter c.action c.resource with
    | error e =>
      rw [hr] at hrequest
      cases hrequest
    | ok r =>
      rw [hr] at hrequest
      exact congrArg Except.ok (Option.some.inj hrequest)
  exact ⟨by simp [Outbox.relay, submit, hrequest, h.isOpen, accept], rfl⟩

/-- It counts a naming error for any other. -/
theorem Serves.relay_of_not_wanted (h : Serves settings builder o)
    (hw : wanted? settings builder c = none) : ∃ notes, o.relay c = { o with
      tally := { o.tally with namingErrors := o.tally.namingErrors + 1 }
      notes := notes } := by
  cases hr : o.builder.request o.settings.targetRouter c.action c.resource with
  | error e =>
    simp only [Outbox.relay, submit_of_naming_error hr]
    exact ⟨_, rfl⟩
  | ok request =>
    rw [h.builder_eq, h.settings_eq] at hr
    unfold wanted? at hw
    rw [hr] at hw
    cases hw

end Wanted

namespace Orderly

variable {o : Outbox} (h : Orderly o) {old placed : List Order} (hledger : o.ledger = old ++ placed)
include h hledger

/-- The orders that were placed later have the higher numbers. -/
theorem mem_placed_iff {order : Order} :
    order ∈ placed ↔ order ∈ o.ledger ∧ old.length ≤ order.ticket := by
  constructor
  · intro hmem
    obtain ⟨n, hn⟩ := List.mem_iff_getElem?.1 hmem
    have hat : o.ledger[old.length + n]? = some order := by
      rw [hledger, List.getElem?_append_right (Nat.le_add_right _ _), Nat.add_sub_cancel_left, hn]
    rw [h.ticket_eq _ _ hat]
    exact ⟨List.mem_of_getElem? hat, Nat.le_add_right _ _⟩
  · intro hmem
    obtain ⟨hmem, hle⟩ := hmem
    rw [hledger, List.mem_append] at hmem
    rcases hmem with hmem | hmem
    · obtain ⟨n, hn⟩ := List.mem_iff_getElem?.1 hmem
      have hlt : n < old.length := (List.getElem?_eq_some_iff.1 hn).1
      have hat : o.ledger[n]? = some order := by rw [hledger, List.getElem?_append_left hlt, hn]
      rw [h.ticket_eq n order hat] at hle
      exact absurd hlt (Nat.not_lt_of_le hle)
    · exact hmem

omit h in
/-- If no two of them are for one resource, each of them is the last one for its resource. -/
theorem latest?_of_mem_placed (hnodup : (placed.map (·.resource)).Nodup) {order : Order}
    (hmem : order ∈ placed) : o.latest? order.resource = some order := by
  obtain ⟨before, after, rfl⟩ := List.append_of_mem hmem
  rw [List.map_append, List.map_cons, List.nodup_append] at hnodup
  have hafter : after.filter (·.resource = order.resource) = [] := by
    refine List.filter_eq_nil_iff.2 fun a ha heq => ?_
    have hk : a.resource = order.resource := of_decide_eq_true heq
    exact (List.nodup_cons.1 hnodup.2.1).1 (hk ▸ List.mem_map_of_mem ha)
  unfold latest?
  rw [hledger, ← List.append_assoc, List.filter_append, List.filter_cons_of_pos (by simp), hafter,
    List.getLast?_concat]

end Orderly

end Outbox

namespace Traffic

open Outbox (wanted?)

/-! ## §2. Obliging events. -/

/-- The change that is relayed, if one is. -/
def Event.relayed? (e : Event) : Option Change :=
  match e.command? with
  | some (.relay c) => some c
  | _ => none

/-- Changes are relayed, and nothing else is asked but how much is pending; what ends is
acknowledged. -/
def Event.Obliging : Event → Prop
  | .ask (.submit _) => False
  | .ask (.relay _) => True
  | .ask .shutDown => False
  | .ask .count => True
  | .tick => True
  | .forget _ => True
  | .start _ => True
  | .finish _ reply => reply.acknowledged = true

/-! ## §3. Changes that are relayed and answered. -/

/-- From `t` to `u` these changes were relayed.  Those that are wanted were placed, in this order;
what is left can be tried, and what was tried is under way or has succeeded. -/
structure Line (settings : CommandSettings) (builder : CommandBuilder) (t : Traffic)
    (cs : List Change) (u : Traffic) : Prop where
  sound : Sound u
  serves : u.outbox.Serves settings builder
  ledger : ∃ placed, u.outbox.ledger = t.outbox.ledger ++ placed
    ∧ placed.map Order.demand = cs.filterMap (wanted? settings builder)
  live : ∀ i ∈ u.outbox.intents, t.outbox.ledger.length ≤ i.order.ticket
    ∧ i.canceled = false ∧ i.due ≤ u.outbox.clock
  attempts : ∃ tried, u.attempts = t.attempts ++ tried
    ∧ ∀ a ∈ tried, t.outbox.ledger.length ≤ a.order.ticket ∧ (a.reply ≠ none → a.succeeded = true)
  tally : ∃ ended, ended + u.underWayCount + t.attempts.length = u.attempts.length
    ∧ u.outbox.tally = { t.outbox.tally with
        attempts := t.outbox.tally.attempts + ended
        successes := t.outbox.tally.successes + ended
        namingErrors :=
          t.outbox.tally.namingErrors + cs.countP fun c => (wanted? settings builder c).isNone }

/-- From `t` to `u` these changes were answered: each that is wanted became an order and was tried
once, with success. -/
structure Answered (settings : CommandSettings) (builder : CommandBuilder) (t : Traffic)
    (cs : List Change) (u : Traffic) : Prop where
  intents : u.outbox.intents = []
  /-- Orders are placed in the order of the changes, and tried in some order. -/
  tried : ∃ placed new, u.outbox.ledger = t.outbox.ledger ++ placed
    ∧ placed.map Order.demand = cs.filterMap (wanted? settings builder)
    ∧ u.attempts = t.attempts ++ new ∧ (new.map (·.order)).Perm placed
    ∧ ∀ a ∈ new, a.succeeded = true
  tally : u.outbox.tally = { t.outbox.tally with
    attempts := t.outbox.tally.attempts + (cs.filterMap (wanted? settings builder)).length
    successes := t.outbox.tally.successes + (cs.filterMap (wanted? settings builder)).length
    namingErrors :=
      t.outbox.tally.namingErrors + cs.countP fun c => (wanted? settings builder c).isNone }

section Lines

variable {settings : CommandSettings} {builder : CommandBuilder} {t u v : Traffic}
  {cs : List Change} {c : Change} {e : Event}

theorem underWayCount_eq_zero (hidle : ∀ a ∈ t.attempts, a.reply ≠ none) : t.underWayCount = 0 :=
  List.countP_eq_zero.2 fun a ha hnone => hidle a ha (Option.isNone_iff_eq_none.1 hnone)

theorem line_nil (ht : Sound t) (hserves : t.outbox.Serves settings builder)
    (hidle : ∀ a ∈ t.attempts, a.reply ≠ none) (hnil : t.outbox.intents = []) :
    Line settings builder t [] t where
  sound := ht
  serves := hserves
  ledger := ⟨[], (List.append_nil _).symm, rfl⟩
  live i hi := by
    rw [hnil] at hi
    cases hi
  attempts := ⟨[], (List.append_nil _).symm, fun a ha => nomatch ha⟩
  tally := ⟨0, by rw [underWayCount_eq_zero hidle, Nat.zero_add], rfl⟩

namespace Line

/-- A change that is relayed now meets no order for its resource. -/
theorem resource_ne (h : Line settings builder t cs u) (hnew : c.resource ∉ cs.map (·.resource))
    {i : Intent} (hi : i ∈ u.outbox.intents) : i.order.resource ≠ c.resource := by
  intro heq
  obtain ⟨placed, hledger, hdemands⟩ := h.ledger
  have hplaced : i.order ∈ placed :=
    (h.sound.accounts.mem_placed_iff hledger).2
      ⟨h.sound.accounts.mem_ledger i hi, (h.live i hi).1⟩
  have hdemand := List.mem_map_of_mem (f := Order.demand) hplaced
  rw [hdemands] at hdemand
  have hsub := Outbox.resources_wanted_sublist settings builder cs
  have hk := hsub.subset (List.mem_map_of_mem (f := (·.1)) hdemand)
  exact hnew (heq ▸ hk)

/-- A change that is wanted becomes an order. -/
theorem relay_of_wanted (h : Line settings builder t cs u)
    (hnew : c.resource ∉ cs.map (·.resource)) {a : Resource × Request}
    (hw : wanted? settings builder c = some a) :
    Line settings builder t (cs ++ [c]) (u.ask (.relay c)) := by
  obtain ⟨hrelay, ha⟩ := h.serves.relay_of_wanted hw
  have hoth : ∀ i ∈ u.outbox.intents, i.order.resource ≠ c.resource :=
    fun i hi => h.resource_ne hnew hi
  have hasked : (u.ask (.relay c)).outbox = u.outbox.accept c.resource a.2 := hrelay
  -- with no order for the resource there is nothing to cancel
  have hkept : u.outbox.intents.map (Outbox.cancelFor c.resource) = u.outbox.intents :=
    (List.map_congr_left fun i hi => if_neg (hoth i hi)).trans (List.map_id _)
  have hsupersede : u.outbox.supersede c.resource a.2 = u.outbox := by
    have hnone : u.outbox.pendingFor? c.resource = none :=
      List.find?_eq_none.2 fun i hi => by simp [Outbox.isPendingFor, hoth i hi]
    unfold Outbox.supersede
    rw [hnone]
  refine ⟨h.sound.ask _, h.serves.relay c, ?ledger, ?live, h.attempts, ?tally⟩
  case ledger =>
    obtain ⟨placed, hledger, hdemands⟩ := h.ledger
    refine ⟨placed ++ [u.outbox.newOrder c.resource a.2], ?_, ?_⟩
    · rw [hasked, Outbox.ledger_accept, hledger, List.append_assoc]
    · rw [List.map_append, hdemands, List.filterMap_append, List.filterMap_cons_some hw, ← ha]
      rfl
  case live =>
    intro i hi
    rw [hasked, Outbox.intents_accept, hkept, List.mem_append, List.mem_singleton] at hi
    rw [hasked, Outbox.clock_accept]
    rcases hi with hi | rfl
    · exact h.live i hi
    · obtain ⟨placed, hledger, _⟩ := h.ledger
      refine ⟨?_, rfl, Nat.le_refl _⟩
      show t.outbox.ledger.length ≤ u.outbox.ledger.length
      rw [hledger, List.length_append]
      exact Nat.le_add_right _ _
  case tally =>
    obtain ⟨ended, hended, htally⟩ := h.tally
    refine ⟨ended, hended, ?_⟩
    rw [hasked, Outbox.accept, hsupersede, List.countP_append,
      List.countP_cons_of_neg (by simp [hw])]
    exact htally

/-- A change that is not wanted is a naming error. -/
theorem relay_of_not_wanted (h : Line settings builder t cs u)
    (hw : wanted? settings builder c = none) :
    Line settings builder t (cs ++ [c]) (u.ask (.relay c)) := by
  obtain ⟨notes, hrelay⟩ := h.serves.relay_of_not_wanted hw
  have hasked : (u.ask (.relay c)).outbox = { u.outbox with
    tally := { u.outbox.tally with namingErrors := u.outbox.tally.namingErrors + 1 }
    notes := notes } := hrelay
  have hnone : (cs ++ [c]).filterMap (wanted? settings builder)
      = cs.filterMap (wanted? settings builder) := by
    rw [List.filterMap_append, List.filterMap_cons_none hw]
    exact List.append_nil _
  refine ⟨h.sound.ask _, h.serves.relay c, ?ledger, ?live, h.attempts, ?tally⟩
  case ledger =>
    rw [hasked, hnone]
    exact h.ledger
  case live =>
    rw [hasked]
    exact h.live
  case tally =>
    obtain ⟨ended, hended, htally⟩ := h.tally
    refine ⟨ended, hended, ?_⟩
    rw [hasked, htally, List.countP_append, List.countP_cons_of_pos (by simp [hw])]
    rfl

/-- An order that is tried with success is done with. -/
theorem finish (h : Line settings builder t cs u) (hidle : ∀ a ∈ t.attempts, a.reply ≠ none)
    {i : Intent} (hi : u.UnderWay i.order) {reply : Reply} (hack : reply.acknowledged = true) :
    Line settings builder t cs (u.finish i reply) := by
  have hsucceed : (u.finish i reply).outbox = u.outbox.succeed i :=
    h.sound.outbox_finish hi (fun j hj => (h.live j hj).2.1) hack
  refine ⟨h.sound.finish hi reply, ?serves, ?ledger, ?live, ?attempts, ?tally⟩
  case serves => exact h.serves.of_sameBooks (Outbox.sameBooks_conclude i reply u.outbox)
  case ledger =>
    rw [hsucceed]
    exact h.ledger
  case live =>
    rw [hsucceed]
    exact fun j hj => h.live j (List.mem_filter.1 hj).1
  case attempts =>
    obtain ⟨tried, hattempts, htried⟩ := h.attempts
    refine ⟨tried.map (answer i.order reply), ?_, fun b hb => ?_⟩
    · show u.attempts.map _ = _
      rw [hattempts, List.map_append, map_answer_of_ended hidle]
    · obtain ⟨a, ha, rfl⟩ := List.mem_map.1 hb
      rw [order_answer]
      exact ⟨(htried a ha).1, succeeded_answer hack (htried a ha).2⟩
  case tally =>
    obtain ⟨ended, hended, htally⟩ := h.tally
    have hless := h.sound.underWayCount_finish hi reply
    refine ⟨ended + 1, ?_, ?_⟩
    · show _ = (u.attempts.map _).length
      rw [List.length_map]
      omega
    · rw [hsucceed]
      show { u.outbox.tally with
        attempts := u.outbox.tally.attempts + 1
        successes := u.outbox.tally.successes + 1 } = _
      rw [htally]
      rfl

theorem start (h : Line settings builder t cs u) {i : Intent} (hi : u.MayStart i) :
    Line settings builder t cs (u.start i) := by
  refine ⟨h.sound.start hi, h.serves, h.ledger, h.live, ?attempts, ?tally⟩
  case attempts =>
    obtain ⟨tried, hattempts, htried⟩ := h.attempts
    refine ⟨tried ++ [⟨u.outbox.clock, i.order, none⟩], ?_, fun a ha => ?_⟩
    · show u.attempts ++ _ = _
      rw [hattempts, List.append_assoc]
    · rcases List.mem_append.1 ha with ha | ha
      · exact htried a ha
      · rw [List.mem_singleton.1 ha]
        exact ⟨(h.live i hi.mem_intents).1, fun hne => absurd rfl hne⟩
  case tally =>
    obtain ⟨ended, hended, htally⟩ := h.tally
    refine ⟨ended, ?_, htally⟩
    show ended + (u.attempts ++ [_]).countP _ + _ = (u.attempts ++ [_]).length
    rw [List.countP_append, List.length_append]
    show ended + (u.underWayCount + 1) + _ = _
    rw [List.length_singleton]
    omega

/-- **What is kept while changes are relayed and orders are tried.** -/
theorem move (h : Line settings builder t cs u) (hidle : ∀ a ∈ t.attempts, a.reply ≠ none)
    (hok : e.Obliging) (hnew : ∀ c, e.relayed? = some c → c.resource ∉ cs.map (·.resource))
    (hmove : Move e u v) : Line settings builder t (cs ++ e.relayed?.toList) v := by
  have hsame : ∀ {w}, Line settings builder t cs w → Line settings builder t (cs ++ []) w :=
    fun hw => by rwa [List.append_nil]
  cases hmove with
  | ask command =>
    cases command with
    | submit _ => exact hok.elim
    | relay c =>
      show Line settings builder t (cs ++ [c]) _
      cases hw : wanted? settings builder c with
      | none => exact h.relay_of_not_wanted hw
      | some a => exact h.relay_of_wanted (hnew c rfl) hw
    | shutDown => exact hok.elim
    | count => exact hsame h
  | tick =>
    refine hsame ⟨h.sound.move .tick, h.serves.of_sameBooks ⟨rfl, rfl, rfl, rfl⟩, h.ledger, ?_,
      h.attempts, h.tally⟩
    exact fun i hi => ⟨(h.live i hi).1, (h.live i hi).2.1, Nat.le_succ_of_le (h.live i hi).2.2⟩
  | forget hi hc _ =>
    -- nothing is canceled
    rw [(h.live _ hi).2.1] at hc
    cases hc
  | start hi => exact hsame (h.start hi)
  | finish reply hi => exact hsame (h.finish hidle hi hok)

theorem path {es : List Event} (ht : Line settings builder t [] t)
    (hidle : ∀ a ∈ t.attempts, a.reply ≠ none) (hpath : Path (fun e _ => e.Obliging) es t u)
    (hnodup : ((es.filterMap Event.relayed?).map (·.resource)).Nodup) :
    Line settings builder t (es.filterMap Event.relayed?) u := by
  -- the changes relayed so far are a part of those relayed in the end
  refine hpath.accumulates (P := fun past v =>
    ((past.filterMap Event.relayed?).map (·.resource)).Nodup →
      Line settings builder t (past.filterMap Event.relayed?) v)
    (fun past e v w hv hok hmove hnodup => ?_) [] (fun _ => ht) hnodup
  have hsplit : (past ++ [e]).filterMap Event.relayed?
      = past.filterMap Event.relayed? ++ e.relayed?.toList := by
    rw [List.filterMap_append]
    cases hr : e.relayed? <;> simp [hr]
  rw [hsplit] at hnodup ⊢
  rw [List.map_append, List.nodup_append] at hnodup
  obtain ⟨hpast, _, hapart⟩ := hnodup
  refine (hv hpast).move hidle hok (fun c hc hmem => ?_) hmove
  rw [hc] at hapart
  exact hapart _ hmem c.resource (List.mem_singleton.2 rfl) rfl

/-! ## §4. At rest. -/

/-- At rest no order is left, for it could be tried. -/
theorem intents_eq_nil (h : Line settings builder t cs u) (hrest : u.AtRest) :
    u.outbox.intents = [] := by
  refine List.eq_nil_iff_forall_not_mem.2 fun i hi => ?_
  have hlater := (h.sound.later_of_atRest hrest hi).2
  exact Nat.not_le_of_lt hlater (h.live i hi).2.2

/-- **At rest, each change has been answered by one attempt.** -/
theorem answered (h : Line settings builder t cs u) (ht : Sound t)
    (hnodup : (cs.map (·.resource)).Nodup) (hrest : u.AtRest) :
    Answered settings builder t cs u := by
  have hnil := h.intents_eq_nil hrest
  obtain ⟨placed, hledger, hdemands⟩ := h.ledger
  obtain ⟨tried, hattempts, htried⟩ := h.attempts
  have hmem : ∀ order, order ∈ placed ↔ order ∈ u.outbox.ledger
      ∧ t.outbox.ledger.length ≤ order.ticket :=
    fun order => h.sound.accounts.mem_placed_iff hledger
  have hdone : ∀ a ∈ tried, a.succeeded = true := by
    refine fun a ha => (htried a ha).2 (hrest.idle a ?_)
    rw [hattempts]
    exact List.mem_append_right _ ha
  have hresources := Outbox.nodup_resources_of_wanted hnodup hdemands
  -- no order is tried again after a success
  have honce : (tried.map (·.order)).Nodup := by
    have hapart := h.sound.apart
    rw [hattempts] at hapart
    refine List.pairwise_map.2 ((List.pairwise_append.1 hapart).2.1.imp_of_mem
      fun {a b} ha _ hab heq => ?_)
    rcases (hab (by rw [heq])).2 with hlt | ⟨_, hfail⟩
    · rw [heq] at hlt
      exact Nat.lt_irrefl _ hlt
    · rw [hdone a ha] at hfail
      cases hfail
  have hperm : (tried.map (·.order)).Perm placed := by
    refine (List.perm_ext_iff_of_nodup honce (.of_map _ hresources)).2 fun order => ?_
    constructor
    · intro horder
      obtain ⟨a, ha, rfl⟩ := List.mem_map.1 horder
      have hin : a ∈ u.attempts := by
        rw [hattempts]
        exact List.mem_append_right _ ha
      exact (hmem _).2 ⟨h.sound.known a hin, (htried a ha).1⟩
    · intro horder
      -- the last order for its resource is pending or acknowledged, and nothing is pending
      have hlast := Outbox.Orderly.latest?_of_mem_placed hledger hresources horder
      have hack : u.Acknowledged order := by
        by_contra hnot
        obtain ⟨i, hi, _⟩ := h.sound.accounts.covered h.serves.isOpen _ order hlast hnot
        rw [hnil] at hi
        cases hi
      obtain ⟨a, ha, rfl, _⟩ := hack
      rw [hattempts, List.mem_append] at ha
      rcases ha with ha | ha
      · -- what was tried before has a lower number
        have hlt := ht.accounts.ticket_lt (ht.known a ha)
        exact absurd ((hmem _).1 horder).2 (Nat.not_le_of_lt hlt)
      · exact List.mem_map_of_mem ha
  refine ⟨hnil, ⟨placed, tried, hledger, hdemands, hattempts, hperm, hdone⟩, ?_⟩
  obtain ⟨ended, hended, htally⟩ := h.tally
  have hlength : ended = (cs.filterMap (wanted? settings builder)).length := by
    have hcount := hperm.length_eq
    rw [underWayCount_eq_zero hrest.idle, hattempts, List.length_append] at hended
    rw [← hdemands, List.length_map, ← hcount, List.length_map]
    omega
  rw [htally, hlength]

end Line

/-! ## §5. Resource by resource. -/

/-- Orders of which no two are for one resource come in one order only, if all are for one. -/
theorem eq_of_perm_of_resource {k : Resource} {first second : List Order}
    (hperm : first.Perm second) (hnodup : (second.map (·.resource)).Nodup)
    (hk : ∀ order ∈ second, order.resource = k) : first = second := by
  match second with
  | [] => exact hperm.eq_nil
  | [_] => exact List.perm_singleton.1 hperm
  | a :: b :: _ =>
    have hsame : b.resource = a.resource := by rw [hk a (by simp), hk b (by simp)]
    rw [List.map_cons, List.map_cons, hsame] at hnodup
    exact absurd List.mem_cons_self (List.nodup_cons.1 hnodup).1

/-- **For each resource, the attempts come in the order of the changes.** -/
theorem Answered.attemptsFor (h : Answered settings builder t cs u)
    (hnodup : (cs.map (·.resource)).Nodup) (k : Resource) :
    (u.attemptsFor k).map (·.order.demand) = (t.attemptsFor k).map (·.order.demand)
      ++ (cs.filter (·.resource = k)).filterMap (wanted? settings builder) := by
  obtain ⟨placed, new, _, hdemands, hattempts, hperm, _⟩ := h.tried
  have hresources := Outbox.nodup_resources_of_wanted hnodup hdemands
  have horders : (new.map (·.order)).filter (·.resource = k) = placed.filter (·.resource = k) :=
    eq_of_perm_of_resource (hperm.filter _)
      (hresources.sublist (List.filter_sublist.map _))
      fun order horder => of_decide_eq_true (List.mem_filter.1 horder).2
  have hnew : (new.filter (·.order.resource = k)).map (·.order.demand)
      = (cs.filter (·.resource = k)).filterMap (wanted? settings builder) :=
    calc (new.filter (·.order.resource = k)).map (·.order.demand)
        = ((new.map (·.order)).filter (·.resource = k)).map Order.demand := by
          rw [List.filter_map, List.map_map]
          rfl
      _ = (placed.filter (·.resource = k)).map Order.demand := by rw [horders]
      _ = (placed.map Order.demand).filter (·.1 = k) := by
          rw [List.filter_map]
          rfl
      _ = _ := by rw [hdemands, Outbox.filter_wanted]
  unfold Traffic.attemptsFor
  rw [hattempts, List.filter_append, List.map_append, hnew]

end Lines

end Traffic

end RoutingSessions
