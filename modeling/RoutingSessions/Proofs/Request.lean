/-
  RoutingSessions.Proofs.Request — when there is a request for a resource.

  A request is put together from names and a payload, each of which may fail.  By the
  naming rules a deletion needs less than a creation: the names, but not the payload.

  Main statements:
    * `exists_deleteRequest` — what can be created can be deleted.
    * `coherent_builder` — a request for a resource is about its entity.
-/
import RoutingSessions.Request

namespace RoutingSessions

/-- A computation in two parts succeeds when both do. -/
theorem bind_eq_ok {ε α β : Type} {first : Except ε α} {rest : α → Except ε β} {b : β} :
    (first >>= rest) = .ok b ↔ ∃ a, first = .ok a ∧ rest a = .ok b := by
  cases first with
  | error e =>
    constructor
    · intro h
      cases h
    · rintro ⟨_, h, _⟩
      cases h
  | ok a =>
    constructor
    · exact fun h => ⟨a, rfl, h⟩
    · rintro ⟨_, h, hrest⟩
      cases h
      exact hrest

/-- A computation of which a result is known succeeded with it. -/
theorem eq_ok_of_toOption {ε α : Type} {x : Except ε α} {a : α} (h : x.toOption = some a) :
    x = .ok a := by
  cases x with
  | error e => cases h
  | ok b =>
    cases h
    rfl

/-! ## §1. Any builder. -/

namespace CommandBuilder

variable {b : CommandBuilder} {router : String} {s : Session} {route : Route} {r : Request}

theorem createRequest_ofSession :
    b.createRequest router (.ofSession s) = .ok r ↔
      ∃ parent name body, b.sessionParent s = .ok parent ∧ b.sessionName s = .ok name
        ∧ b.sessionConfig s = .ok body ∧ r = .create router parent name body := by
  unfold createRequest
  simp only [Resource.ofSession, bind_eq_ok, pure, Except.pure, Except.ok.injEq]
  constructor
  · rintro ⟨parent, hp, name, hn, body, hb, rfl⟩
    exact ⟨parent, name, body, hp, hn, hb, rfl⟩
  · rintro ⟨parent, name, body, hp, hn, hb, rfl⟩
    exact ⟨parent, hp, name, hn, body, hb, rfl⟩

theorem createRequest_ofRoute :
    b.createRequest router (.ofRoute s route) = .ok r ↔
      ∃ parent name body, b.routeParent s route = .ok parent ∧ b.routeName s route = .ok name
        ∧ b.routeConfig s route = .ok body ∧ r = .create router parent name body := by
  unfold createRequest
  simp only [Resource.ofRoute, bind_eq_ok, pure, Except.pure, Except.ok.injEq]
  constructor
  · rintro ⟨parent, hp, name, hn, body, hb, rfl⟩
    exact ⟨parent, name, body, hp, hn, hb, rfl⟩
  · rintro ⟨parent, name, body, hp, hn, hb, rfl⟩
    exact ⟨parent, hp, name, hn, body, hb, rfl⟩

theorem deleteRequest_ofSession :
    b.deleteRequest router (.ofSession s) = .ok r ↔
      ∃ entity, b.sessionEntity s = .ok entity ∧ r = .delete router entity := by
  unfold deleteRequest
  simp only [Resource.ofSession, bind_eq_ok, pure, Except.pure, Except.ok.injEq, @eq_comm _ r]

theorem deleteRequest_ofRoute :
    b.deleteRequest router (.ofRoute s route) = .ok r ↔
      ∃ entity, b.routeEntity s route = .ok entity ∧ r = .delete router entity := by
  unfold deleteRequest
  simp only [Resource.ofRoute, bind_eq_ok, pure, Except.pure, Except.ok.injEq, @eq_comm _ r]

theorem action_request {a : Action} {k : Resource} (h : b.request router a k = .ok r) :
    r.action = a := by
  obtain ⟨s, _ | route⟩ := k <;> cases a
  · obtain ⟨_, _, _, _, _, _, rfl⟩ := createRequest_ofSession.1 h
    rfl
  · obtain ⟨_, _, rfl⟩ := deleteRequest_ofSession.1 h
    rfl
  · obtain ⟨_, _, _, _, _, _, rfl⟩ := createRequest_ofRoute.1 h
    rfl
  · obtain ⟨_, _, rfl⟩ := deleteRequest_ofRoute.1 h
    rfl

theorem entity?_of_deleteRequest {k : Resource} (h : b.deleteRequest router k = .ok r) :
    b.entity? k = some r.entity := by
  obtain ⟨s, _ | route⟩ := k
  · obtain ⟨entity, he, rfl⟩ := deleteRequest_ofSession.1 h
    exact congrArg Except.toOption he
  · obtain ⟨entity, he, rfl⟩ := deleteRequest_ofRoute.1 h
    exact congrArg Except.toOption he

/-- Requests are about the entity that deletions name: creations as well. -/
def Coherent (b : CommandBuilder) : Prop :=
  ∀ router a k r, b.request router a k = .ok r → b.entity? k = some r.entity

end CommandBuilder

/-! ## §2. The builder that follows the rules. -/

namespace Namer

open CommandBuilder (createRequest_ofSession createRequest_ofRoute deleteRequest_ofSession
  deleteRequest_ofRoute)

variable {n : Namer} {router : String} {s : Session} {route : Route} {r : Request}

/-- **What can be created can be deleted**, and the deletion is about the same entity. -/
theorem exists_deleteRequest {k : Resource} (h : n.createRequest router k = .ok r) :
    n.deleteRequest router k = .ok (.delete router r.entity) := by
  obtain ⟨s, _ | route⟩ := k
  · obtain ⟨parent, name, body, hp, hn, _, rfl⟩ := createRequest_ofSession.1 h
    exact deleteRequest_ofSession.2 ⟨_, sessionEntity_eq_ok hp hn, rfl⟩
  · obtain ⟨parent, name, body, hp, hn, _, rfl⟩ := createRequest_ofRoute.1 h
    exact deleteRequest_ofRoute.2 ⟨_, routeEntity_eq_ok hp hn, rfl⟩

theorem entity?_ofSession {entity : String} :
    n.entity? (.ofSession s) = some entity ↔ n.sessionEntity s = .ok entity :=
  ⟨eq_ok_of_toOption, fun h => congrArg Except.toOption h⟩

theorem entity?_ofRoute {entity : String} :
    n.entity? (.ofRoute s route) = some entity ↔ n.routeEntity s route = .ok entity :=
  ⟨eq_ok_of_toOption, fun h => congrArg Except.toOption h⟩

/-- What has an entity can be deleted. -/
theorem deleteRequest_of_entity? {k : Resource} {entity : String} (h : n.entity? k = some entity) :
    n.deleteRequest router k = .ok (.delete router entity) := by
  obtain ⟨s, _ | route⟩ := k
  · exact deleteRequest_ofSession.2 ⟨entity, entity?_ofSession.1 h, rfl⟩
  · exact deleteRequest_ofRoute.2 ⟨entity, entity?_ofRoute.1 h, rfl⟩

/-- **A request for a resource is about its entity**, whatever is done to the resource. -/
theorem coherent_builder (n : Namer) : n.builder.Coherent := by
  intro router a k r h
  cases a with
  | create =>
    have hdelete := CommandBuilder.entity?_of_deleteRequest (exists_deleteRequest h)
    exact hdelete
  | delete => exact CommandBuilder.entity?_of_deleteRequest h

/-- Whatever is done to a resource that can be created, there is a request for it. -/
theorem exists_request {k : Resource} (h : n.createRequest router k = .ok r) (a : Action) :
    ∃ request, n.builder.request router a k = .ok request := by
  cases a with
  | create => exact ⟨r, h⟩
  | delete => exact ⟨_, exists_deleteRequest h⟩

end Namer

end RoutingSessions
