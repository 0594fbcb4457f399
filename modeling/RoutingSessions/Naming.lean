/-
  RoutingSessions.Naming — names and payloads for the resources of the engine.

  Entities are named by segments joined with `::`, from the service down:
  service, domain route, session, topic route.  The last two segments and the
  payloads are templates.  Names see the values as they are, payloads see them
  escaped; the default partition has a label in names and stays empty in payloads.

  A name that is blank or that holds the separator is refused, and so is a session
  without a topic; whatever is asked of such a session gives that error first.

  Main statements:
    * `sessionEntity_eq_ok`, `routeEntity_eq_ok` — an entity is its parent, the
      separator and its name.
-/
import RoutingSessions.Naming.Markup
import RoutingSessions.Naming.Template
import RoutingSessions.Session
import RoutingSessions.Text.Blank

namespace RoutingSessions

/-! ## Rules -/

/-- How resources are named and described. -/
structure NamingRules where
  /-- The domain route that hosts the sessions. -/
  domainRoute : String := "domain_route"
  /-- The participant on the observed domain. -/
  observedParticipant : String := "1"
  /-- The participant on the remote domain. -/
  remoteParticipant : String := "2"
  /-- What names call the default partition. -/
  defaultPartitionLabel : String := "default"
  sessionName : String := "\x7btopic\x7d(\x7bpartition\x7d)"
  routeName : String := "\x7btopic\x7d.\x7bdirection\x7d"
  sessionConfig : String :=
    "<session name=\"\x7bsession\x7d\">"
      ++ "<publisher_qos><partition><name><element>\x7bpartition\x7d</element></name></partition>"
      ++ "</publisher_qos>"
      ++ "<subscriber_qos><partition><name><element>\x7bpartition\x7d</element></name></partition>"
      ++ "</subscriber_qos>"
      ++ "</session>"
  routeConfig : String :=
    "<topic_route name=\"\x7broute\x7d\">"
      ++ "<input participant=\"\x7binput_participant\x7d\">"
      ++ "<topic_name>\x7btopic\x7d</topic_name>"
      ++ "<registered_type_name>\x7btype\x7d</registered_type_name>"
      ++ "</input>"
      ++ "<output participant=\"\x7boutput_participant\x7d\">"
      ++ "<topic_name>\x7btopic\x7d</topic_name>"
      ++ "<registered_type_name>\x7btype\x7d</registered_type_name>"
      ++ "</output>"
      ++ "</topic_route>"
deriving DecidableEq, Inhabited

/-! ## Errors -/

/-- What is wrong with a name. -/
inductive NameFault where
  | blank
  | separator
deriving DecidableEq

/-- Why a name or payload cannot be built. -/
inductive NamingError where
  /-- The session has no topic. -/
  | emptyTopic
  /-- The name that the template gives is refused. -/
  | invalidName (name : String) (fault : NameFault)
  /-- The template asks for a value that there is not. -/
  | unresolved (placeholder : String)
deriving DecidableEq

/-- The wording of a name's fault. -/
def NameFault.message : NameFault → String
  | .blank => "name is empty"
  | .separator => "name contains the entity separator"

/-- The wording of a naming error. -/
def NamingError.message : NamingError → String
  | .emptyTopic => "session has an empty topic name"
  | .invalidName name fault => s!"invalid entity name '{name}': {fault.message}"
  | .unresolved placeholder => "unresolved placeholder '\x7b" ++ placeholder ++ "\x7d' in template"

/-! ## Names -/

/-- The text between the segments of an entity name. -/
def entitySeparator : String := "::"

/-- The entity `name` inside `parent`. -/
def qualify (parent name : String) : String := parent ++ entitySeparator ++ name

/-- The text holds two colons in a row. -/
def holdsSeparator : List Char → Bool
  | [] => false
  | [_] => false
  | a :: b :: cs => (a == ':' && b == ':') || holdsSeparator (b :: cs)

/-- The name itself, unless it is refused. -/
def checkName (name : String) : Except NamingError String :=
  if isBlankText name then .error (.invalidName name .blank)
  else if holdsSeparator name.toList then .error (.invalidName name .separator)
  else .ok name

/-- The template expanded, with a missing value as a naming error. -/
def expandTemplate (template : String) (vars : List (String × String)) :
    Except NamingError String :=
  (Template.expand template vars).mapError .unresolved

/-- Each value as payloads write it. -/
def escapeValues (vars : List (String × String)) : List (String × String) :=
  vars.map fun v => (v.1, Markup.escape v.2)

/-! ## The resources of one service -/

/-- A routing engine, and the rules for what is named there. -/
structure Namer where
  service : String
  rules : NamingRules
deriving DecidableEq, Inhabited

namespace Namer

/-- What names call the session's partition. -/
def partitionLabel (n : Namer) (s : Session) : String :=
  if s.isDefault then n.rules.defaultPartitionLabel else s.partition

/-- The participant that a route reads from. -/
def inputParticipant (n : Namer) : Direction → String
  | .outgoing => n.rules.observedParticipant
  | .incoming => n.rules.remoteParticipant

/-- The participant that a route writes to. -/
def outputParticipant (n : Namer) : Direction → String
  | .outgoing => n.rules.remoteParticipant
  | .incoming => n.rules.observedParticipant

/-- Refuses a session without a topic. -/
def checkSession (s : Session) : Except NamingError Unit :=
  if s.topic.isEmpty then .error .emptyTopic else .ok ()

/-! ### Sessions -/

/-- The entity under which sessions are created. -/
def sessionParent (n : Namer) (s : Session) : Except NamingError String := do
  checkSession s
  return qualify n.service n.rules.domainRoute

/-- The values that a session's name may use. -/
def sessionNameValues (n : Namer) (s : Session) : List (String × String) :=
  [("service", n.service), ("domain_route", n.rules.domainRoute), ("topic", s.topic),
    ("partition", n.partitionLabel s)]

/-- The name of a session. -/
def sessionName (n : Namer) (s : Session) : Except NamingError String := do
  checkSession s
  checkName (← expandTemplate n.rules.sessionName (n.sessionNameValues s))

/-- The entity of a session. -/
def sessionEntity (n : Namer) (s : Session) : Except NamingError String := do
  let parent ← n.sessionParent s
  let name ← n.sessionName s
  return qualify parent name

/-- The values that a session's payload may use, for a session of that name. -/
def sessionConfigValues (n : Namer) (s : Session) (name : String) : List (String × String) :=
  [("service", n.service), ("domain_route", n.rules.domainRoute), ("session", name),
    ("topic", s.topic), ("partition", s.partition)]

/-- The payload that describes a session. -/
def sessionConfig (n : Namer) (s : Session) : Except NamingError String := do
  let name ← n.sessionName s
  expandTemplate n.rules.sessionConfig (escapeValues (n.sessionConfigValues s name))

/-! ### Routes -/

/-- The entity under which a session's routes are created. -/
def routeParent (n : Namer) (s : Session) : Except NamingError String := n.sessionEntity s

/-- The values that a route's name may use. -/
def routeNameValues (n : Namer) (s : Session) (r : Route) : List (String × String) :=
  [("service", n.service), ("topic", r.topic), ("partition", n.partitionLabel s),
    ("direction", r.direction.label), ("type", r.typeName)]

/-- The name of a route. -/
def routeName (n : Namer) (s : Session) (r : Route) : Except NamingError String := do
  checkSession s
  checkName (← expandTemplate n.rules.routeName (n.routeNameValues s r))

/-- The entity of a route. -/
def routeEntity (n : Namer) (s : Session) (r : Route) : Except NamingError String := do
  let parent ← n.routeParent s
  let name ← n.routeName s r
  return qualify parent name

/-- The values that a route's payload may use, for a route and a session of those names. -/
def routeConfigValues (n : Namer) (s : Session) (r : Route) (name sessionName : String) :
    List (String × String) :=
  [("service", n.service), ("domain_route", n.rules.domainRoute), ("session", sessionName),
    ("route", name), ("topic", r.topic), ("type", r.typeName), ("partition", s.partition),
    ("direction", r.direction.label), ("input_participant", n.inputParticipant r.direction),
    ("output_participant", n.outputParticipant r.direction)]

/-- The payload that describes a route. -/
def routeConfig (n : Namer) (s : Session) (r : Route) : Except NamingError String := do
  let name ← n.routeName s r
  let sessionName ← n.sessionName s
  expandTemplate n.rules.routeConfig (escapeValues (n.routeConfigValues s r name sessionName))

/-! ### Entities -/

theorem sessionEntity_eq_ok {n : Namer} {s : Session} {parent name : String}
    (hp : n.sessionParent s = .ok parent) (hn : n.sessionName s = .ok name) :
    n.sessionEntity s = .ok (qualify parent name) := by
  simp [sessionEntity, hp, hn, bind, Except.bind, pure, Except.pure]

theorem routeEntity_eq_ok {n : Namer} {s : Session} {r : Route} {parent name : String}
    (hp : n.routeParent s = .ok parent) (hn : n.routeName s r = .ok name) :
    n.routeEntity s r = .ok (qualify parent name) := by
  simp [routeEntity, hp, hn, bind, Except.bind, pure, Except.pure]

end Namer

end RoutingSessions
