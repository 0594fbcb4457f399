/-
  RoutingSessions.Proofs.Outbox.Orders — ledger and intents in step.

  The ledger only grows, and numbers its orders.  The intents are orders of the
  ledger in the same order, each at most once; one that is not canceled is for the
  order last accepted for its resource, and after a shutdown there is none.

  Which orders have been answered is not for the outbox to say.  Given a set of
  answered orders, the accounts are right if no pending order is among them, and
  every order last accepted for its resource that is not among them is pending,
  unless the outbox is shut down.

  Main statements:
    * `Orderly.run` — ledger and intents stay in step.
    * `Superseded.run` — what is superseded stays so.
    * `Accounts.run`, `Accounts.conclude` — the accounts stay right.
-/
import Mathlib.Data.List.Nodup
import RoutingSessions.Proofs.Outbox.Cases

namespace RoutingSessions

namespace Outbox

/-! ## §1. Keys. -/

/-- The order last accepted for a resource. -/
def latest? (o : Outbox) (k : Resource) : Option Order :=
  (o.ledger.filter (·.resource = k)).getLast?

/-- The resources with a pending order, oldest order first. -/
def pendingKeys (o : Outbox) : List Resource :=
  (o.intents.filter fun i => !i.canceled).map (·.order.resource)

theorem mem_pendingKeys {o : Outbox} {k : Resource} :
    k ∈ o.pendingKeys ↔ ∃ i ∈ o.intents, i.canceled = false ∧ i.order.resource = k := by
  unfold pendingKeys
  simp [and_assoc]

theorem length_pendingKeys (o : Outbox) : o.pendingKeys.length = o.pendingCount := by
  unfold pendingKeys pendingCount
  rw [List.length_map, List.countP_eq_length_filter]

theorem latest?_congr {o p : Outbox} (h : p.ledger = o.ledger) (k : Resource) :
    p.latest? k = o.latest? k := by
  unfold latest?
  rw [h]

theorem mem_of_latest? {o : Outbox} {k : Resource} {order : Order}
    (h : o.latest? k = some order) : order ∈ o.ledger ∧ order.resource = k := by
  have hmem := List.mem_of_getLast? h
  rw [List.mem_filter] at hmem
  exact ⟨hmem.1, of_decide_eq_true hmem.2⟩

theorem latest?_eq_none {o : Outbox} {k : Resource} :
    o.latest? k = none ↔ ∀ order ∈ o.ledger, order.resource ≠ k := by
  unfold latest?
  rw [List.getLast?_eq_none_iff, List.filter_eq_nil_iff]
  simp

/-- An accepted request becomes the last order for its resource, and for no other. -/
theorem latest?_accept (k : Resource) (request : Request) (o : Outbox) (k' : Resource) :
    (o.accept k request).latest? k'
      = if k = k' then some (o.newOrder k request) else o.latest? k' := by
  unfold latest?
  rw [ledger_accept, List.filter_append]
  by_cases hk : k = k'
  · simp [newOrder, hk]
  · simp [newOrder, hk]

/-! ## §2. Ledger and intents in step. -/

/-- Ledger and intents are in step. -/
structure Orderly (o : Outbox) : Prop where
  /-- The ledger numbers its orders. -/
  ticket_eq : ∀ (n : Nat) (order : Order), o.ledger[n]? = some order → order.ticket = n
  mem_ledger : ∀ i ∈ o.intents, i.order ∈ o.ledger
  ascending : o.intents.Pairwise fun (i j : Intent) => i.order.ticket < j.order.ticket
  /-- What is pending is the order last accepted for its resource. -/
  current : ∀ i ∈ o.intents, i.canceled = false → o.latest? i.order.resource = some i.order
  halted : o.isShutDown = true → ∀ i ∈ o.intents, i.canceled = true

theorem orderly_new (settings : CommandSettings) (builder : CommandBuilder) :
    Orderly (new settings builder) := by
  constructor <;> simp [new]

/-- What of an intent the order of things depends on. -/
def mark (i : Intent) : Order × Bool := (i.order, i.canceled)

theorem exists_of_sublist_marks {l m : List Intent} (h : (l.map mark).Sublist (m.map mark))
    {i : Intent} (hi : i ∈ l) : ∃ j ∈ m, j.order = i.order ∧ j.canceled = i.canceled := by
  obtain ⟨j, hj, hmark⟩ := List.mem_map.1 (h.subset (List.mem_map_of_mem (f := mark) hi))
  exact ⟨j, hj, congrArg Prod.fst hmark, congrArg Prod.snd hmark⟩

theorem marks_forget (ticket : Nat) (o : Outbox) :
    ((o.forget ticket).intents.map mark).Sublist (o.intents.map mark) :=
  List.filter_sublist.map mark

theorem marks_postpone (ticket : Nat) (o : Outbox) :
    (o.postpone ticket).intents.map mark = o.intents.map mark := by
  show List.map mark (List.map _ o.intents) = _
  rw [List.map_map]
  refine List.map_congr_left fun i _ => ?_
  show mark (if i.order.ticket = ticket then _ else i) = mark i
  split <;> rfl

theorem marks_conclude (i : Intent) (reply : Reply) (o : Outbox) :
    ((o.conclude i reply).intents.map mark).Sublist (o.intents.map mark) := by
  rcases conclude_cases i reply o with ⟨_, _, _, h⟩ | ⟨_, _, _, _, h⟩ | ⟨_, _, _, _, h⟩
  · rw [h]
    exact marks_forget _ _
  · rw [h]
    exact marks_forget _ _
  · rw [h, marks_postpone]

namespace Orderly

section Facts

variable {o : Outbox} (h : Orderly o)
include h

theorem ticket_lt {order : Order} (hmem : order ∈ o.ledger) : order.ticket < o.ledger.length := by
  obtain ⟨n, hn⟩ := List.mem_iff_getElem?.1 hmem
  rw [h.ticket_eq n order hn]
  exact (List.getElem?_eq_some_iff.1 hn).1

theorem order_eq {a b : Order} (ha : a ∈ o.ledger) (hb : b ∈ o.ledger)
    (ht : a.ticket = b.ticket) : a = b := by
  obtain ⟨m, hm⟩ := List.mem_iff_getElem?.1 ha
  obtain ⟨n, hn⟩ := List.mem_iff_getElem?.1 hb
  have hmn : m = n := by rw [← h.ticket_eq m a hm, ← h.ticket_eq n b hn, ht]
  subst hmn
  exact Option.some.inj (hm.symm.trans hn)

theorem intent_eq {i j : Intent} (hi : i ∈ o.intents) (hj : j ∈ o.intents)
    (ht : i.order.ticket = j.order.ticket) : i = j := by
  -- two intents at different places have different tickets, in whichever order they stand
  have hall : ∀ ⦃a⦄, a ∈ o.intents → ∀ ⦃b⦄, b ∈ o.intents →
      a.order.ticket = b.order.ticket → a = b :=
    List.Pairwise.forall_of_forall_of_flip (fun a _ _ => rfl)
      (h.ascending.imp fun hlt heq => absurd heq (Nat.ne_of_lt hlt))
      (h.ascending.imp fun hlt heq => absurd heq.symm (Nat.ne_of_lt hlt))
  exact hall hi hj ht

theorem newOrder_not_mem (k : Resource) (request : Request) :
    o.newOrder k request ∉ o.ledger := by
  intro hmem
  exact absurd (h.ticket_lt hmem) (Nat.lt_irrefl _)

/-- The order last accepted for a resource has the highest ticket. -/
theorem ticket_le_of_latest? {k : Resource} {last order : Order} (hlast : o.latest? k = some last)
    (hmem : order ∈ o.ledger) (hk : order.resource = k) : order.ticket ≤ last.ticket := by
  have hascending : o.ledger.Pairwise fun (a b : Order) => a.ticket < b.ticket := by
    rw [List.pairwise_iff_getElem]
    intro m n hm hn hlt
    rw [h.ticket_eq m _ (List.getElem?_eq_getElem hm),
      h.ticket_eq n _ (List.getElem?_eq_getElem hn)]
    exact hlt
  have hin : order ∈ o.ledger.filter (·.resource = k) := List.mem_filter.2 ⟨hmem, by simpa using hk⟩
  have hpairs := hascending.filter (·.resource = k)
  -- the orders for the resource are some orders, and then the last one
  obtain ⟨init, hinit⟩ := List.getLast?_eq_some_iff.1 hlast
  rw [hinit, List.mem_append, List.mem_singleton] at hin
  rw [hinit, List.pairwise_append] at hpairs
  rcases hin with hin | rfl
  · exact Nat.le_of_lt (hpairs.2.2 order hin last (List.mem_singleton.2 rfl))
  · exact Nat.le_refl _

/-- No resource has two pending orders. -/
theorem nodup_pendingKeys : o.pendingKeys.Nodup := by
  unfold pendingKeys List.Nodup
  rw [List.pairwise_map, List.pairwise_filter]
  -- two pending orders for one resource would both be the last one for it
  refine h.ascending.imp_of_mem fun {i j} hi hj hlt hic hjc hkey => ?_
  have hilast := h.current i hi (by simpa using hic)
  have hjlast := h.current j hj (by simpa using hjc)
  rw [hkey, hjlast] at hilast
  have horder : j.order = i.order := Option.some.inj hilast
  rw [horder] at hlt
  exact Nat.lt_irrefl _ hlt

/-- The pending intent for a resource is the one that is not canceled. -/
theorem pendingFor?_eq_some {k : Resource} {i : Intent} :
    o.pendingFor? k = some i ↔ i ∈ o.intents ∧ i.canceled = false ∧ i.order.resource = k := by
  have hfor : ∀ j : Intent, isPendingFor k j = true ↔ j.canceled = false ∧ j.order.resource = k :=
    fun j => by simp [isPendingFor]
  constructor
  · exact fun hi => ⟨List.mem_of_find?_eq_some hi, (hfor i).1 (List.find?_some hi)⟩
  · intro hi
    obtain ⟨hmem, hc, hk⟩ := hi
    -- some intent is found, and it is for the same order
    obtain ⟨j, hj⟩ := Option.isSome_iff_exists.1
      (List.find?_isSome.2 ⟨i, hmem, (hfor i).2 ⟨hc, hk⟩⟩)
    have hjmem := List.mem_of_find?_eq_some hj
    obtain ⟨hjc, hjk⟩ := (hfor j).1 (List.find?_some hj)
    have hlast := h.current i hmem hc
    rw [hk, ← hjk, h.current j hjmem hjc] at hlast
    have hij : j = i := h.intent_eq hjmem hmem (congrArg Order.ticket (Option.some.inj hlast))
    rw [← hij]
    exact hj

/-- With an order that is not canceled the outbox is open. -/
theorem isShutDown_eq_false {i : Intent} (hi : i ∈ o.intents) (hc : i.canceled = false) :
    o.isShutDown = false := by
  rw [Bool.eq_false_iff]
  intro hs
  have hcanceled := h.halted hs i hi
  rw [hc] at hcanceled
  cases hcanceled

/-- What is canceled and what is pending are different orders. -/
theorem canceled_eq_of_isCanceled {i : Intent} (hi : i ∈ o.intents)
    (hc : o.isCanceled i.order.ticket = true) : i.canceled = true := by
  unfold isCanceled at hc
  rw [List.any_eq_true] at hc
  obtain ⟨j, hj, hjc⟩ := hc
  simp only [Bool.and_eq_true, decide_eq_true_eq] at hjc
  have hij := h.intent_eq hj hi hjc.1
  rw [← hij]
  exact hjc.2

end Facts

section Steps

variable {o p : Outbox}

/-- An order of the ledger that is the last one for its resource later was so already. -/
theorem latest?_of_append (hp : Orderly p) (ho : Orderly o) {more : List Order}
    (hledger : p.ledger = o.ledger ++ more) {k : Resource} {order : Order}
    (hmem : order ∈ o.ledger) (hlast : p.latest? k = some order) : o.latest? k = some order := by
  unfold latest? at hlast
  rw [hledger, List.filter_append, List.getLast?_append] at hlast
  cases hmore : (more.filter (·.resource = k)).getLast? with
  | none =>
    rw [hmore] at hlast
    exact hlast
  | some other =>
    -- then the order stands twice in the ledger, under two numbers
    rw [hmore] at hlast
    have heq : other = order := Option.some.inj hlast
    subst heq
    have hother := (List.mem_filter.1 (List.mem_of_getLast? hmore)).1
    obtain ⟨n, hn⟩ := List.mem_iff_getElem?.1 hother
    have hticket := hp.ticket_eq (o.ledger.length + n) other (by
      rw [hledger, List.getElem?_append_right (Nat.le_add_right _ _), Nat.add_sub_cancel_left]
      exact hn)
    have hlt := ho.ticket_lt hmem
    omega

/-- Intents may go, and what is not an order or a cancellation may change. -/
theorem of_sublist (h : Orderly o) (hledger : p.ledger = o.ledger)
    (hshut : p.isShutDown = o.isShutDown)
    (hmarks : (p.intents.map mark).Sublist (o.intents.map mark)) : Orderly p where
  ticket_eq := by rw [hledger]; exact h.ticket_eq
  mem_ledger i hi := by
    obtain ⟨j, hj, horder, _⟩ := exists_of_sublist_marks hmarks hi
    rw [hledger, ← horder]
    exact h.mem_ledger j hj
  ascending := by
    have hall : (o.intents.map mark).Pairwise fun a b => a.1.ticket < b.1.ticket :=
      List.pairwise_map.2 h.ascending
    have hsub := hall.sublist hmarks
    rw [List.pairwise_map] at hsub
    exact hsub
  current i hi hc := by
    obtain ⟨j, hj, horder, hjc⟩ := exists_of_sublist_marks hmarks hi
    rw [latest?_congr hledger, ← horder]
    exact h.current j hj (hjc.trans hc)
  halted hs i hi := by
    obtain ⟨j, hj, _, hjc⟩ := exists_of_sublist_marks hmarks hi
    rw [← hjc]
    exact h.halted (hshut ▸ hs) j hj

/-- What is counted and noted does not matter. -/
theorem count (h : Orderly o) (tally : Tally) (notes : List Note) :
    Orderly { o with tally := tally, notes := notes } :=
  h.of_sublist rfl rfl (.refl _)

theorem forget (h : Orderly o) (ticket : Nat) : Orderly (o.forget ticket) :=
  h.of_sublist rfl rfl (marks_forget ticket o)

theorem postpone (h : Orderly o) (ticket : Nat) : Orderly (o.postpone ticket) :=
  h.of_sublist rfl rfl (by rw [marks_postpone])

theorem accept (h : Orderly o) (hs : o.isShutDown = false) (k : Resource) (request : Request) :
    Orderly (o.accept k request) where
  ticket_eq n order hn := by
    rw [ledger_accept] at hn
    -- the new order has the first number that is free
    rcases Nat.lt_or_ge n o.ledger.length with hlt | hge
    · rw [List.getElem?_append_left hlt] at hn
      exact h.ticket_eq n order hn
    · rw [List.getElem?_append_right hge, List.getElem?_singleton] at hn
      split at hn
      next hzero =>
        rw [← Option.some.inj hn]
        show o.ledger.length = n
        omega
      next => cases hn
  mem_ledger i hi := by
    rw [mem_ledger_accept]
    rcases mem_intents_accept.1 hi with ⟨j, hj, rfl⟩ | rfl
    · rw [order_cancelFor]
      exact .inl (h.mem_ledger j hj)
    · exact .inr rfl
  ascending := by
    rw [intents_accept, List.pairwise_append, List.pairwise_map]
    refine ⟨by simpa using h.ascending, List.pairwise_singleton _ _, fun i hi j hj => ?_⟩
    obtain ⟨old, hold, rfl⟩ := List.mem_map.1 hi
    -- tickets in the ledger are below its length, which is the new ticket
    rw [List.mem_singleton.1 hj, order_cancelFor]
    exact h.ticket_lt (h.mem_ledger old hold)
  current i hi hc := by
    rw [latest?_accept]
    rcases mem_intents_accept.1 hi with ⟨j, hj, rfl⟩ | rfl
    · -- what is still pending is for another resource
      obtain ⟨hjc, hother⟩ := not_canceled_cancelFor.1 hc
      rw [order_cancelFor, if_neg hother.symm]
      exact h.current j hj hjc
    · exact if_pos rfl
  halted hshut := by
    rw [isShutDown_accept, hs] at hshut
    cases hshut

theorem shutDown (h : Orderly o) : Orderly o.shutDown where
  ticket_eq := h.ticket_eq
  mem_ledger i hi := by
    obtain ⟨j, hj, rfl⟩ := List.mem_map.1 hi
    exact h.mem_ledger j hj
  ascending := List.pairwise_map.2 h.ascending
  current i hi hc := by
    obtain ⟨j, hj, rfl⟩ := List.mem_map.1 hi
    cases hc
  halted _ i hi := by
    obtain ⟨j, hj, rfl⟩ := List.mem_map.1 hi
    rfl

theorem run (h : Orderly o) (c : Command) : Orderly (o.run c).1 := by
  rcases run_cases c o with ⟨tally, notes, heq⟩ | ⟨change, request, _, _, hs, heq⟩ | ⟨_, heq⟩
  · rw [heq]
    exact h.count tally notes
  · rw [heq]
    exact h.accept hs _ _
  · rw [heq]
    exact h.shutDown

theorem runAll (h : Orderly o) (cs : List Command) : Orderly (o.runAll cs).1 :=
  runAll_keeps (fun c _ h => h.run c) cs h

theorem conclude (h : Orderly o) (i : Intent) (reply : Reply) : Orderly (o.conclude i reply) :=
  h.of_sublist (ledger_conclude i reply o) (isShutDown_conclude i reply o)
    (marks_conclude i reply o)

end Steps

end Orderly

/-! ## §3. Superseded orders. -/

/-- The orders for the resource below a ticket do not count any more. -/
structure Superseded (k : Resource) (ticket : Nat) (o : Outbox) : Prop where
  placed : ticket ≤ o.ledger.length
  canceled : ∀ i ∈ o.intents, i.order.resource = k → i.order.ticket < ticket → i.canceled = true

/-- An order supersedes those placed before it for its resource. -/
theorem Orderly.superseded {o : Outbox} (h : Orderly o) {k : Resource} {order : Order}
    (hlast : o.latest? k = some order) : Superseded k order.ticket o where
  placed := Nat.le_of_lt (h.ticket_lt (mem_of_latest? hlast).1)
  canceled i hi hk hlt := by
    by_contra hc
    have hcurrent := h.current i hi (Bool.eq_false_iff.2 hc)
    rw [hk, hlast] at hcurrent
    rw [← Option.some.inj hcurrent] at hlt
    exact Nat.lt_irrefl _ hlt

namespace Superseded

variable {k : Resource} {ticket : Nat} {o p : Outbox}

theorem of_sublist (h : Superseded k ticket o) (hledger : p.ledger = o.ledger)
    (hmarks : (p.intents.map mark).Sublist (o.intents.map mark)) : Superseded k ticket p where
  placed := by rw [hledger]; exact h.placed
  canceled i hi hk hlt := by
    obtain ⟨j, hj, horder, hjc⟩ := exists_of_sublist_marks hmarks hi
    rw [← horder] at hk hlt
    rw [← hjc]
    exact h.canceled j hj hk hlt

theorem run (h : Superseded k ticket o) (c : Command) : Superseded k ticket (o.run c).1 := by
  rcases run_cases c o with ⟨tally, notes, heq⟩ | ⟨change, request, _, _, _, heq⟩ | ⟨_, heq⟩
  · rw [heq]
    exact h.of_sublist rfl (.refl _)
  · rw [heq]
    refine ⟨?placed, ?canceled⟩
    case placed =>
      rw [ledger_accept, List.length_append]
      exact Nat.le_add_right_of_le h.placed
    case canceled =>
      intro i hi hk hlt
      -- a newer request can only cancel more, and its own ticket is not below
      rcases mem_intents_accept.1 hi with ⟨j, hj, rfl⟩ | rfl
      · rw [order_cancelFor] at hk hlt
        exact canceled_cancelFor.2 (.inl (h.canceled j hj hk hlt))
      · exact absurd h.placed (Nat.not_le_of_lt hlt)
  · rw [heq]
    refine ⟨h.placed, fun i hi _ _ => ?_⟩
    obtain ⟨j, _, rfl⟩ := List.mem_map.1 hi
    rfl

end Superseded

/-! ## §4. The accounts. -/

/-- The outbox keeps right accounts of the orders that have been answered. -/
structure Accounts (answered : Order → Prop) (o : Outbox) : Prop extends Orderly o where
  known : ∀ order, answered order → order ∈ o.ledger
  unanswered : ∀ i ∈ o.intents, i.canceled = false → ¬answered i.order
  covered : o.isShutDown = false → ∀ k order, o.latest? k = some order → ¬answered order →
    ∃ i ∈ o.intents, i.order = order ∧ i.canceled = false

namespace Accounts

variable {answered : Order → Prop} {o p : Outbox}

/-- **What is pending is what was accepted last and has not been answered.** -/
theorem mem_pendingKeys_iff (h : Accounts answered o) (hs : o.isShutDown = false) (k : Resource) :
    k ∈ o.pendingKeys ↔ ∃ order, o.latest? k = some order ∧ ¬answered order := by
  rw [mem_pendingKeys]
  constructor
  · rintro ⟨i, hi, hc, rfl⟩
    exact ⟨i.order, h.current i hi hc, h.unanswered i hi hc⟩
  · -- this is where a shutdown would break the accounts
    rintro ⟨order, hlast, hnot⟩
    obtain ⟨i, hi, rfl, hc⟩ := h.covered hs k order hlast hnot
    exact ⟨i, hi, hc, (mem_of_latest? hlast).2⟩

/-- What is not an order or a cancellation does not matter. -/
theorem of_marks (h : Accounts answered o) (hledger : p.ledger = o.ledger)
    (hshut : p.isShutDown = o.isShutDown) (hmarks : p.intents.map mark = o.intents.map mark) :
    Accounts answered p := by
  have hto : (p.intents.map mark).Sublist (o.intents.map mark) := by rw [hmarks]
  have hfrom : (o.intents.map mark).Sublist (p.intents.map mark) := by rw [hmarks]
  refine ⟨h.toOrderly.of_sublist hledger hshut hto, ?known, ?unanswered, ?covered⟩
  case known =>
    rw [hledger]
    exact h.known
  case unanswered =>
    intro i hi hc
    obtain ⟨j, hj, horder, hjc⟩ := exists_of_sublist_marks hto hi
    rw [← horder]
    exact h.unanswered j hj (hjc.trans hc)
  case covered =>
    intro hs k order hlast hnot
    rw [hshut] at hs
    rw [latest?_congr hledger] at hlast
    obtain ⟨i, hi, rfl, hc⟩ := h.covered hs k order hlast hnot
    obtain ⟨j, hj, horder, hjc⟩ := exists_of_sublist_marks hfrom hi
    exact ⟨j, hj, horder, hjc.trans hc⟩

theorem accept (h : Accounts answered o) (hs : o.isShutDown = false) (k : Resource)
    (request : Request) : Accounts answered (o.accept k request) where
  toOrderly := h.toOrderly.accept hs k request
  known order hans := mem_ledger_accept.2 (.inl (h.known order hans))
  unanswered i hi hc := by
    rcases mem_intents_accept.1 hi with ⟨j, hj, rfl⟩ | rfl
    · rw [order_cancelFor]
      exact h.unanswered j hj (not_canceled_cancelFor.1 hc).1
    · -- the engine cannot have answered what was accepted just now
      exact fun hans => h.newOrder_not_mem k request (h.known _ hans)
  covered _ k' order hlast hnot := by
    rw [latest?_accept] at hlast
    by_cases hk : k = k'
    · rw [if_pos hk] at hlast
      exact ⟨_, mem_intents_accept.2 (.inr rfl), Option.some.inj hlast, rfl⟩
    · rw [if_neg hk] at hlast
      obtain ⟨i, hi, rfl, hc⟩ := h.covered hs k' order hlast hnot
      -- the pending order is for another resource, so it stays
      have hother : i.order.resource ≠ k := by
        rw [(mem_of_latest? hlast).2]
        exact fun heq => hk heq.symm
      have hkept : cancelFor k i = i := if_neg hother
      exact ⟨i, mem_intents_accept.2 (.inl ⟨i, hi, hkept⟩), rfl, hc⟩

theorem shutDown (h : Accounts answered o) : Accounts answered o.shutDown where
  toOrderly := h.toOrderly.shutDown
  known := h.known
  unanswered i hi hc := by
    obtain ⟨j, hj, rfl⟩ := List.mem_map.1 hi
    cases hc
  covered hs := by cases hs

theorem run (h : Accounts answered o) (c : Command) : Accounts answered (o.run c).1 := by
  rcases run_cases c o with ⟨tally, notes, heq⟩ | ⟨change, request, _, _, hs, heq⟩ | ⟨_, heq⟩
  · rw [heq]
    exact h.of_marks rfl rfl rfl
  · rw [heq]
    exact h.accept hs _ _
  · rw [heq]
    exact h.shutDown

/-- An order may be forgotten when all its intents are canceled, or when it has been answered. -/
theorem forget {answered' : Order → Prop} (h : Accounts answered o) {ticket : Nat}
    (hknown : ∀ order, answered' order → order ∈ o.ledger)
    (hmore : ∀ order, answered order → answered' order)
    (hnew : ∀ order, answered' order → answered order ∨ order.ticket = ticket)
    (hcovered : ∀ i ∈ o.intents, i.order.ticket = ticket → i.canceled = false →
      answered' i.order) :
    Accounts answered' (o.forget ticket) where
  toOrderly := h.toOrderly.forget ticket
  known := hknown
  unanswered i hi hc hans := by
    obtain ⟨hi, hticket⟩ := List.mem_filter.1 hi
    rcases hnew _ hans with hans | heq
    · exact h.unanswered i hi hc hans
    · exact absurd heq (of_decide_eq_true hticket)
  covered hs k order hlast hnot := by
    obtain ⟨i, hi, rfl, hc⟩ := h.covered hs k order hlast fun hans => hnot (hmore _ hans)
    refine ⟨i, List.mem_filter.2 ⟨hi, decide_eq_true fun heq => ?_⟩, rfl, hc⟩
    exact hnot (hcovered i hi heq hc)

/-- **The end of an attempt counts as an answer** if the engine acknowledged the order. -/
theorem conclude (h : Accounts answered o) {i : Intent} (hi : i.order ∈ o.ledger)
    (reply : Reply) :
    Accounts (fun order => answered order ∨ order = i.order ∧ reply.acknowledged = true)
      (o.conclude i reply) := by
  have hknown : ∀ order, (answered order ∨ order = i.order ∧ reply.acknowledged = true) →
      order ∈ o.ledger := by
    rintro order (hans | ⟨rfl, _⟩)
    · exact h.known order hans
    · exact hi
  have hnew : ∀ order, (answered order ∨ order = i.order ∧ reply.acknowledged = true) →
      answered order ∨ order.ticket = i.order.ticket := by
    rintro order (hans | ⟨rfl, _⟩)
    · exact .inl hans
    · exact .inr rfl
  have hsame : ∀ tally notes, Accounts answered { o with tally := tally, notes := notes } :=
    fun tally notes => h.of_marks rfl rfl rfl
  rcases conclude_cases i reply o with
    ⟨hc, tally, notes, heq⟩ | ⟨_, hack, tally, notes, heq⟩ | ⟨_, hack, tally, notes, heq⟩
  · -- canceled: the intent with this ticket is a canceled one
    rw [heq]
    refine (hsame tally notes).forget hknown (fun _ => .inl) hnew fun j hj ht hjc => ?_
    have hcanceled := h.canceled_eq_of_isCanceled hj (ht.symm ▸ hc)
    rw [hjc] at hcanceled
    cases hcanceled
  · -- acknowledged: the order counts as answered now
    rw [heq]
    refine (hsame tally notes).forget hknown (fun _ => .inl) hnew fun j hj ht _ => ?_
    exact .inr ⟨h.order_eq (h.mem_ledger j hj) hi ht, hack⟩
  · -- put off: nothing was answered
    rw [heq]
    have hset : (fun order => answered order ∨ order = i.order ∧ reply.acknowledged = true)
        = answered := by
      funext order
      simp [hack]
    rw [hset]
    exact (hsame tally notes).of_marks rfl rfl (marks_postpone _ _)

end Accounts

end Outbox

end RoutingSessions
