/-
  RoutingSessions.Request — what the routing engine is told, and what it answers.

  A request creates a resource of some name inside a parent, or deletes the entity
  that it names in full.  Names and payloads come from a builder, which may be any; the
  one that the program has follows naming rules.

  Main statements:
    * `Request.entity_create`, `Request.entity_delete` — the entity that a request is
      about.
-/
import RoutingSessions.Naming

namespace RoutingSessions

/-! ## Requests -/

/-- A request to the routing engine. -/
structure Request where
  action : Action
  /-- The engine that the request is for. -/
  router : String
  /-- The parent of what is created, or the entity that is deleted. -/
  resource : String
  /-- The name of what is created. -/
  name : Option String
  /-- The payload that describes what is created. -/
  body : Option String
deriving DecidableEq, Inhabited

namespace Request

/-- Asks for `name` to be created inside `parent`. -/
def create (router parent name body : String) : Request :=
  ⟨.create, router, parent, some name, some body⟩

/-- Asks for an entity to be deleted. -/
def delete (router entity : String) : Request := ⟨.delete, router, entity, none, none⟩

/-- The entity that the request is about. -/
def entity (r : Request) : String :=
  match r.action, r.name with
  | .create, some name => qualify r.resource name
  | _, _ => r.resource

theorem entity_create (router parent name body : String) :
    (create router parent name body).entity = qualify parent name := rfl

theorem entity_delete (router entity : String) : (delete router entity).entity = entity := rfl

end Request

/-! ## Responses -/

/-- An answer of the routing engine. -/
structure Response where
  acknowledged : Bool
  /-- What the engine has to say about it. -/
  message : String
deriving DecidableEq, Inhabited

namespace Response

/-- The engine did what it was asked. -/
def ok : Response := ⟨true, ""⟩

/-- The engine refused. -/
def error (message : String) : Response := ⟨false, message⟩

end Response

/-! ## The requests for a resource -/

/-- What names resources, and describes them.  Whatever it is asked, it may refuse. -/
structure CommandBuilder where
  /-- The entity under which a session is created. -/
  sessionParent : Session → Except NamingError String
  sessionName : Session → Except NamingError String
  /-- The entity that a session is, for its deletion. -/
  sessionEntity : Session → Except NamingError String
  /-- The payload that describes a session. -/
  sessionConfig : Session → Except NamingError String
  /-- The entity under which a route is created. -/
  routeParent : Session → Route → Except NamingError String
  routeName : Session → Route → Except NamingError String
  /-- The entity that a route is, for its deletion. -/
  routeEntity : Session → Route → Except NamingError String
  /-- The payload that describes a route. -/
  routeConfig : Session → Route → Except NamingError String

namespace CommandBuilder

/-- The request that creates a resource. -/
def createRequest (b : CommandBuilder) (router : String) (k : Resource) :
    Except NamingError Request :=
  match k.route with
  | none => do
    let parent ← b.sessionParent k.session
    let name ← b.sessionName k.session
    let body ← b.sessionConfig k.session
    return .create router parent name body
  | some r => do
    let parent ← b.routeParent k.session r
    let name ← b.routeName k.session r
    let body ← b.routeConfig k.session r
    return .create router parent name body

/-- The request that deletes a resource. -/
def deleteRequest (b : CommandBuilder) (router : String) (k : Resource) :
    Except NamingError Request :=
  match k.route with
  | none => do return .delete router (← b.sessionEntity k.session)
  | some r => do return .delete router (← b.routeEntity k.session r)

/-- The request that does `action` to a resource. -/
def request (b : CommandBuilder) (router : String) (action : Action) (k : Resource) :
    Except NamingError Request :=
  match action with
  | .create => b.createRequest router k
  | .delete => b.deleteRequest router k

/-- The entity of a resource, if it has one. -/
def entity? (b : CommandBuilder) (k : Resource) : Option String :=
  match k.route with
  | none => (b.sessionEntity k.session).toOption
  | some r => (b.routeEntity k.session r).toOption

end CommandBuilder

namespace Namer

/-- The builder that follows the rules. -/
def builder (n : Namer) : CommandBuilder where
  sessionParent := n.sessionParent
  sessionName := n.sessionName
  sessionEntity := n.sessionEntity
  sessionConfig := n.sessionConfig
  routeParent s _ := n.routeParent s
  routeName := n.routeName
  routeEntity := n.routeEntity
  routeConfig := n.routeConfig

/-- The request that creates a resource, by the rules. -/
def createRequest (n : Namer) (router : String) (k : Resource) : Except NamingError Request :=
  n.builder.createRequest router k

/-- The request that deletes a resource, by the rules. -/
def deleteRequest (n : Namer) (router : String) (k : Resource) : Except NamingError Request :=
  n.builder.deleteRequest router k

/-- The entity of a resource by the rules, if it has one. -/
def entity? (n : Namer) (k : Resource) : Option String := n.builder.entity? k

end Namer

instance : Inhabited CommandBuilder := ⟨(default : Namer).builder⟩

/-! ## Refusals -/

/-- Why a command for a resource is not accepted. -/
inductive CommandError where
  /-- The request cannot be built. -/
  | naming (e : NamingError)
  /-- The commander takes no more commands. -/
  | shutDown
  /-- There is nothing to run the commander on. -/
  | noRuntime
deriving DecidableEq

/-- The wording of a refusal. -/
def CommandError.message : CommandError → String
  | .naming e => s!"naming error: {e.message}"
  | .shutDown => "commander is shut down"
  | .noRuntime => "no tokio runtime available"

end RoutingSessions
