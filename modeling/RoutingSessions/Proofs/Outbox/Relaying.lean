/-
  RoutingSessions.Proofs.Outbox.Relaying — what observed changes become.

  An outbox serves a builder if every order in its ledger carries the request that the
  builder makes for creating or for deleting the order's resource.  A change that was
  observed is dropped only if there is no request for it, so the last of several
  changes to a resource is the one that is ordered last for it.

  Main statements:
    * `Serves.relayAll` — the orders placed for observed changes carry the builder's
      requests.
    * `Serves.latest?_relayAll` — the last change to a resource is the one that counts.
-/
import Mathlib.Data.List.Induction
import RoutingSessions.Proofs.Outbox.Orders
import RoutingSessions.Proofs.Request

namespace RoutingSessions

namespace Outbox

/-! ## §1. Relaying as commands. -/

theorem relayAll_concat (cs : List Change) (c : Change) (o : Outbox) :
    o.relayAll (cs ++ [c]) = (o.relayAll cs).relay c := by
  unfold relayAll
  rw [List.foldl_append]
  rfl

theorem runAll_relay (cs : List Change) (o : Outbox) :
    (o.runAll (cs.map .relay)).1 = o.relayAll cs := by
  induction cs generalizing o with
  | nil => rfl
  | cons c cs ih => exact ih (o.relay c)

/-- Asking how much is pending changes nothing. -/
theorem runAll_count {cs : List Command} (hcs : ∀ c ∈ cs, c = .count) (o : Outbox) :
    (o.runAll cs).1 = o := by
  induction cs generalizing o with
  | nil => rfl
  | cons c cs ih =>
    obtain rfl := hcs c List.mem_cons_self
    exact ih (fun d hd => hcs d (List.mem_cons_of_mem _ hd)) o

/-! ## §2. Serving a builder. -/

/-- The outbox is open, and its orders carry the requests that the builder makes. -/
structure Serves (settings : CommandSettings) (builder : CommandBuilder) (o : Outbox) : Prop where
  settings_eq : o.settings = settings
  builder_eq : o.builder = builder
  isOpen : o.isShutDown = false
  genuine : ∀ order ∈ o.ledger,
    ∃ a, builder.request settings.targetRouter a order.resource = .ok order.request

theorem serves_new (settings : CommandSettings) (builder : CommandBuilder) :
    Serves settings builder (new settings builder) :=
  ⟨rfl, rfl, rfl, by simp [new]⟩

namespace Serves

variable {settings : CommandSettings} {builder : CommandBuilder} {o p : Outbox}

theorem of_sameBooks (h : Serves settings builder o) (hsame : SameBooks o p) :
    Serves settings builder p where
  settings_eq := hsame.settings.trans h.settings_eq
  builder_eq := hsame.builder.trans h.builder_eq
  isOpen := hsame.isShutDown.trans h.isOpen
  genuine := by rw [hsame.ledger]; exact h.genuine

theorem relay (h : Serves settings builder o) (c : Change) :
    Serves settings builder (o.relay c) := by
  rcases relay_cases c o with ⟨tally, notes, heq, _⟩ | ⟨request, hrequest, _, heq⟩
  · rw [heq]
    exact h.of_sameBooks ⟨rfl, rfl, rfl, rfl⟩
  · -- the builder that answered is the one that is served
    rw [h.builder_eq, h.settings_eq] at hrequest
    rw [heq]
    refine ⟨?_, ?_, ?_, fun order hmem => ?_⟩
    · rw [settings_accept, h.settings_eq]
    · rw [builder_accept, h.builder_eq]
    · rw [isShutDown_accept, h.isOpen]
    · rcases mem_ledger_accept.1 hmem with hmem | rfl
      · exact h.genuine order hmem
      · exact ⟨c.action, hrequest⟩

theorem relayAll (h : Serves settings builder o) (cs : List Change) :
    Serves settings builder (o.relayAll cs) := by
  induction cs using List.reverseRecOn with
  | nil => exact h
  | append_singleton cs c ih =>
    rw [relayAll_concat]
    exact ih.relay c

/-! ## §3. The last change counts. -/

theorem latest?_relay_of_ne {c : Change} {k : Resource} (hk : c.resource ≠ k) :
    (o.relay c).latest? k = o.latest? k := by
  rcases relay_cases c o with ⟨tally, notes, heq, _⟩ | ⟨request, _, _, heq⟩
  · rw [heq]
    exact latest?_congr rfl k
  · rw [heq, latest?_accept]
    exact if_neg hk

theorem latest?_relayAll_of_ne {cs : List Change} {k : Resource}
    (hcs : ∀ c ∈ cs, c.resource ≠ k) : (o.relayAll cs).latest? k = o.latest? k := by
  induction cs using List.reverseRecOn with
  | nil => rfl
  | append_singleton cs c ih =>
    rw [relayAll_concat, latest?_relay_of_ne (hcs c (by simp))]
    exact ih fun d hd => hcs d (List.mem_append_left _ hd)

theorem latest?_relay (h : Serves settings builder o) {c : Change} {request : Request}
    (hrequest : builder.request settings.targetRouter c.action c.resource = .ok request) :
    ∃ order, (o.relay c).latest? c.resource = some order ∧ order.request = request := by
  rw [← h.builder_eq, ← h.settings_eq] at hrequest
  rcases relay_cases c o with ⟨_, _, _, hshut | hnone⟩ | ⟨accepted, haccepted, _, heq⟩
  · rw [h.isOpen] at hshut
    cases hshut
  · exact absurd hrequest (hnone request)
  · rw [hrequest] at haccepted
    injection haccepted with haccepted
    subst haccepted
    rw [heq, latest?_accept]
    exact ⟨_, if_pos rfl, rfl⟩

/-- **The last change to a resource is the one that counts**, if there are requests for the
resource. -/
theorem latest?_relayAll (h : Serves settings builder o) {k : Resource}
    (hrequests : ∀ a, ∃ request, builder.request settings.targetRouter a k = .ok request)
    (cs : List Change) :
    match (cs.filter (·.resource = k)).getLast? with
      | some c => ∃ order, (o.relayAll cs).latest? k = some order ∧ order.request.action = c.action
      | none => (o.relayAll cs).latest? k = o.latest? k := by
  induction cs using List.reverseRecOn with
  | nil => rfl
  | append_singleton cs c ih =>
    rw [relayAll_concat, List.filter_append]
    -- the change that is relayed last decides, if it is of `k`
    by_cases hk : c.resource = k
    · subst hk
      obtain ⟨request, hrequest⟩ := hrequests c.action
      obtain ⟨order, hlast, horder⟩ := (h.relayAll cs).latest?_relay hrequest
      simpa using ⟨order, hlast, horder ▸ CommandBuilder.action_request hrequest⟩
    · simpa [hk, latest?_relay_of_ne hk] using ih

end Serves

end Outbox

end RoutingSessions
