/-
  RoutingSessions.Proofs.Naming.Counterparts — a creation, and the deletion that undoes
  it.

  A creation gives a parent and a name, a deletion gives the entity in full, and both
  are put together on their own.  They meet: the entity that a creation is about is the
  one that the names give, so what was created can be deleted.  A route is created
  inside the entity that the deletion of its session gives.

  Main statements:
    * `acceptable_sessionName`, `acceptable_routeName` — what names look like.
    * `deletion_of_creation` — what can be created can be deleted, by the same entity.
-/
import RoutingSessions.Proofs.Naming.Joints

namespace RoutingSessions

/-! ## §1. Names. -/

/-- The name is not blank, and the separator is not in it. -/
structure Acceptable (name : String) : Prop where
  not_blank : ∃ c ∈ name.toList, isBlank c = false
  no_separator : ¬entitySeparator.toList <:+: name.toList

theorem acceptable_of_not_refused {name : String} (hblank : isBlankText name = false)
    (hseparator : holdsSeparator name.toList = false) : Acceptable name := by
  constructor
  · unfold isBlankText at hblank
    simpa using hblank
  · intro hinfix
    obtain ⟨before, after, hsplit⟩ := hinfix
    have hholds : holdsSeparator name.toList = true := by
      apply holdsSeparator_iff.2
      refine ⟨before, after, ?_⟩
      rw [← hsplit, List.append_assoc]
      rfl
    rw [hholds] at hseparator
    cases hseparator

namespace Namer

variable {n : Namer} {name : String} {s : Session} {route : Route}

theorem acceptable_sessionName (h : n.sessionName s = .ok name) : Acceptable name := by
  obtain ⟨_, hblank, hseparator⟩ := expandTemplate_of_sessionName h
  exact acceptable_of_not_refused hblank hseparator

theorem acceptable_routeName (h : n.routeName s route = .ok name) : Acceptable name := by
  obtain ⟨_, hblank, hseparator⟩ := expandTemplate_of_routeName h
  exact acceptable_of_not_refused hblank hseparator

/-! ## §2. Creations and deletions. -/

/-- **What can be created can be deleted, by the same entity.**  The entity of either request is
the one that the names give: the parent, the separator, and the name of what is created, which is
acceptable.  The parent of a route is the entity by which its session is deleted.  This holds
whether or not the requests go to the service that the entities are named after. -/
theorem deletion_of_creation (n : Namer) (router : String) :
    (∀ s creation, n.createRequest router (.ofSession s) = .ok creation →
      ∃ deletion name, n.deleteRequest router (.ofSession s) = .ok deletion
        ∧ deletion.entity = creation.entity ∧ n.sessionEntity s = .ok creation.entity
        ∧ creation.name = some name ∧ Acceptable name
        ∧ creation.entity = creation.resource ++ "::" ++ name)
      ∧ ∀ s route creation, n.createRequest router (.ofRoute s route) = .ok creation →
        ∃ deletion name parent, n.deleteRequest router (.ofRoute s route) = .ok deletion
          ∧ deletion.entity = creation.entity ∧ n.routeEntity s route = .ok creation.entity
          ∧ creation.name = some name ∧ Acceptable name
          ∧ creation.entity = creation.resource ++ "::" ++ name
          ∧ n.deleteRequest router (.ofSession s) = .ok parent
          ∧ creation.resource = parent.entity := by
  constructor
  · intro s creation h
    have hdeletion := exists_deleteRequest h
    obtain ⟨parent, name, body, hparent, hname, _, rfl⟩ :=
      CommandBuilder.createRequest_ofSession.1 h
    exact ⟨_, name, hdeletion, rfl, sessionEntity_eq_ok hparent hname, rfl,
      acceptable_sessionName hname, rfl⟩
  · intro s route creation h
    have hdeletion := exists_deleteRequest h
    obtain ⟨parent, name, body, hparent, hname, _, rfl⟩ := CommandBuilder.createRequest_ofRoute.1 h
    -- the parent of a route is the entity of its session
    have hsession : n.deleteRequest router (.ofSession s) = .ok (.delete router parent) :=
      CommandBuilder.deleteRequest_ofSession.2 ⟨parent, hparent, rfl⟩
    exact ⟨_, name, _, hdeletion, rfl, routeEntity_eq_ok hparent hname, rfl,
      acceptable_routeName hname, rfl, hsession, rfl⟩

/-- A namer whose payloads for sessions ask for a value that there is not. -/
def payloadless : Namer :=
  ⟨"rs", { sessionConfig := "\x7bnothing\x7d", routeConfig := "\x7btype\x7d" }⟩

/-- A deletion needs no payload: this session cannot be created, but it can be deleted. -/
example : (payloadless.createRequest "rs" (.ofSession ⟨"T", ""⟩)).toOption = none
    ∧ (payloadless.deleteRequest "rs" (.ofSession ⟨"T", ""⟩)).toOption
      = some (.delete "rs" "rs::domain_route::T(default)") := by
  decide +kernel

/-- A route can be created although its session cannot, and both can be deleted. -/
theorem deletion_of_creation_payloadless :
    let s : Session := ⟨"T", ""⟩
    let route : Route := ⟨.outgoing, "T", "U"⟩
    ∃ creation deletion parent, payloadless.createRequest "other" (.ofRoute s route) = .ok creation
      ∧ payloadless.deleteRequest "other" (.ofRoute s route) = .ok deletion
      ∧ deletion.entity = creation.entity ∧ creation.entity = "rs::domain_route::T(default)::T.OUT"
      ∧ payloadless.deleteRequest "other" (.ofSession s) = .ok parent
      ∧ creation.resource = parent.entity := by
  intro s route
  obtain ⟨creation, hsome⟩ :
      ∃ creation, (payloadless.createRequest "other" (.ofRoute s route)).toOption = some creation :=
    Option.isSome_iff_exists.1 (by decide +kernel)
  have hcreation := eq_ok_of_toOption hsome
  have hentity : payloadless.routeEntity s route = .ok "rs::domain_route::T(default)::T.OUT" :=
    eq_ok_of_toOption (by decide +kernel)
  obtain ⟨deletion, _, parent, hdeletion, hsame, hroute, _, _, _, hparent, hresource⟩ :=
    (deletion_of_creation payloadless "other").2 s route creation hcreation
  refine ⟨creation, deletion, parent, hcreation, hdeletion, hsame, ?_, hparent, hresource⟩
  rw [hentity] at hroute
  exact (Except.ok.inj hroute).symm

end Namer

end RoutingSessions
