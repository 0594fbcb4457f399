/-
  RoutingSessions.Settings — how a router service is configured.

  Every setting has a default.  Settings are acceptable when nothing that the
  service cannot do without is empty or zero, and when the filters they describe can
  be built; of several faults the first in a fixed order is reported.  The patterns in
  them are compiled by the matcher for regular expressions that the service has.

  Main statement:
    * `buildFilters_of_validate` — acceptable settings have filters.
-/
import RoutingSessions.Filter
import RoutingSessions.Naming

namespace RoutingSessions

/-! ## Sections -/

/-- How commands are sent. -/
structure CommandSettings where
  /-- The routing engine that commands are for. -/
  targetRouter : String := "hdds-router"
  /-- The time between two attempts, in milliseconds. -/
  retryDelay : Nat := 1000
  /-- The time that an attempt may take, in milliseconds. -/
  requestTimeout : Nat := 2000
deriving DecidableEq, Inhabited

/-- What is ignored. -/
structure FilterSettings where
  ignoreBuiltinTopics : Bool := true
  ignoreWildcardPartitions : Bool := true
  /-- The topics that are routed. -/
  topics : Selection := .all
  /-- Patterns of partitions to ignore. -/
  ignorePartitions : List String := []
  /-- Participants to ignore, in dotted hexadecimal. -/
  ignoredParticipants : List String := []
deriving DecidableEq, Inhabited

/-- The settings of a service. -/
structure Settings where
  name : String := "hdds-partition-router"
  logLevel : String := "info"
  commands : CommandSettings := {}
  naming : NamingRules := {}
  filters : FilterSettings := {}
deriving DecidableEq, Inhabited

/-! ## Errors -/

/-- Why settings are not acceptable. -/
inductive SettingsFault where
  | emptyName
  | emptyTarget
  | zeroDelay
  | zeroTimeout
  /-- The naming rule of that name is blank. -/
  | blankRule (rule : String)
  | filter (e : FilterError)
deriving DecidableEq

/-- The wording of a fault of the settings. -/
def SettingsFault.message : SettingsFault → String
  | .emptyName => "Service name is empty"
  | .emptyTarget => "Target router is empty"
  | .zeroDelay => "Retry delay must be non-zero"
  | .zeroTimeout => "Request timeout must be non-zero"
  | .blankRule rule => s!"naming.{rule} is empty"
  | .filter e => e.message

/-! ## Filters -/

namespace FilterSettings

/-- Appends a filter if it is asked for. -/
def addIf (asked : Bool) (filter : Except FilterError Filter) (chain : List Filter) :
    Except FilterError (List Filter) :=
  if asked then filter.map fun f => chain ++ [f] else .ok chain

/-- The filters that the settings describe; a filter that would ignore nothing is left out. -/
def build (m : Expression.Matcher) (s : FilterSettings) : Except FilterError (List Filter) := do
  let chain ← addIf s.ignoreBuiltinTopics (.ok .builtinTopics) []
  let chain ←
    addIf (!s.ignoredParticipants.isEmpty) (Filter.ofParticipants s.ignoredParticipants) chain
  let chain ← addIf (s.topics ≠ .all) (Filter.ofSelection m s.topics) chain
  addIf (s.ignoreWildcardPartitions || !s.ignorePartitions.isEmpty)
    (Filter.ofPartitions m s.ignorePartitions s.ignoreWildcardPartitions) chain

end FilterSettings

/-! ## Validation -/

namespace Settings

/-- The naming rules that may not be blank, in the order in which they are looked at. -/
def neededRules (r : NamingRules) : List (String × String) :=
  [("domain_route", r.domainRoute), ("session_name", r.sessionName), ("route_name", r.routeName),
    ("session_config", r.sessionConfig), ("route_config", r.routeConfig)]

/-- The filters of the service. -/
def buildFilters (m : Expression.Matcher) (s : Settings) : Except SettingsFault (List Filter) :=
  (s.filters.build m).mapError .filter

/-- Refuses settings that the service cannot run with. -/
def validate (m : Expression.Matcher) (s : Settings) : Except SettingsFault Unit :=
  if s.name.isEmpty then .error .emptyName
  else if s.commands.targetRouter.isEmpty then .error .emptyTarget
  else if s.commands.retryDelay = 0 then .error .zeroDelay
  else if s.commands.requestTimeout = 0 then .error .zeroTimeout
  else
    match (neededRules s.naming).find? fun r => isBlankText r.2 with
    | some r => .error (.blankRule r.1)
    | none => (s.buildFilters m).map fun _ => ()

/-- The settings that an example file shows. -/
def sample : Settings where
  filters := {
    topics := .allBut ["Internal/*"]
    ignorePartitions := ["debug*"]
    ignoredParticipants := ["01.0f.ac.10.00.00.00.00.00.00.00.01"] }

theorem buildFilters_of_validate {m : Expression.Matcher} {s : Settings}
    (h : s.validate m = .ok ()) : ∃ filters, s.buildFilters m = .ok filters := by
  unfold validate at h
  repeat' split at h
  all_goals first | cases h | skip
  cases hb : s.buildFilters m with
  | ok filters => exact ⟨filters, rfl⟩
  | error e => simp [hb, Except.map] at h

end Settings

end RoutingSessions
