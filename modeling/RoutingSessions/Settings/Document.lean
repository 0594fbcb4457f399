/-
  RoutingSessions.Settings.Document — settings in structured text.

  Every field may be left out and has its default then.  The sections of a settings
  file are records of their own.  Settings that are read are looked at as well, with
  the matcher that their patterns are for.
-/
import RoutingSessions.Json.Reader
import RoutingSessions.Selection.Document
import RoutingSessions.Settings
import RoutingSessions.Toml.Reader
import RoutingSessions.Trace

namespace RoutingSessions

open RoutingSessions.Document

/-! ## Records -/

/-- The fields of the section on commands. -/
def CommandSettings.record : Record CommandSettings where
  name := "struct CommanderSettings"
  fields := [
    .of "target_router" false readText fun v s => { s with targetRouter := v },
    .of "retry_delay_ms" false readCount fun v s => { s with retryDelay := v },
    .of "request_timeout_ms" false readCount fun v s => { s with requestTimeout := v }]
  blank := {}

/-- The fields of the section on naming. -/
def NamingRules.record : Record NamingRules where
  name := "struct NamingConfig"
  fields := [
    .of "domain_route" false readText fun v s => { s with domainRoute := v },
    .of "observed_participant" false readText fun v s => { s with observedParticipant := v },
    .of "remote_participant" false readText fun v s => { s with remoteParticipant := v },
    .of "default_partition_label" false readText fun v s => { s with defaultPartitionLabel := v },
    .of "session_name" false readText fun v s => { s with sessionName := v },
    .of "route_name" false readText fun v s => { s with routeName := v },
    .of "session_config" false readText fun v s => { s with sessionConfig := v },
    .of "route_config" false readText fun v s => { s with routeConfig := v }]
  blank := {}

/-- The fields of the section on filters. -/
def FilterSettings.record : Record FilterSettings where
  name := "struct FilterConfig"
  fields := [
    .of "ignore_builtin_topics" false readBoolean fun v s => { s with ignoreBuiltinTopics := v },
    .of "ignore_wildcard_partitions" false readBoolean
      fun v s => { s with ignoreWildcardPartitions := v },
    .of "topics" false Selection.read fun v s => { s with topics := v },
    .of "ignore_partitions" false readTexts fun v s => { s with ignorePartitions := v },
    .of "ignored_participants" false readTexts fun v s => { s with ignoredParticipants := v }]
  blank := {}

namespace Settings

/-- The fields of the settings. -/
def record : Record Settings where
  name := "struct ServiceConfig"
  fields := [
    .of "name" false readText fun v s => { s with name := v },
    .of "log_level" false readText fun v s => { s with logLevel := v },
    .of "commander" false CommandSettings.record.read fun v s => { s with commands := v },
    .of "naming" false NamingRules.record.read fun v s => { s with naming := v },
    .of "filters" false FilterSettings.record.read fun v s => { s with filters := v }]
  blank := {}

/-! ## Reading -/

/-- Why a settings text is not accepted. -/
inductive Error where
  | file (e : FileError)
  | text (trouble : Trouble)
  | invalid (fault : SettingsFault)
deriving DecidableEq

/-- The wording of a fault of the settings, in full. -/
def invalidMessage (fault : SettingsFault) : String := s!"Invalid configuration: {fault.message}"

/-- The settings themselves, if they are acceptable. -/
def accept (m : Expression.Matcher) (decoded : Except Trouble Settings) :
    Except Error Settings :=
  match decoded with
  | .error t => .error (.text t)
  | .ok s =>
    match s.validate m with
    | .error f => .error (.invalid f)
    | .ok () => .ok s

/-- Reads settings from TOML text. -/
def ofToml (m : Expression.Matcher) (text : String) : Except Error Settings :=
  accept m (Toml.decode record.read text)

/-- Reads settings from JSON text. -/
def ofJson (m : Expression.Matcher) (text : String) : Except Error Settings :=
  accept m (Json.decode record.read text)

/-- Reads settings from a TOML file, if there is one. -/
def load (m : Expression.Matcher) (file : Option (List UInt8)) : Except Error Settings :=
  match file with
  | none => .error (.file .notFound)
  | some bytes =>
    match decodeUtf8? bytes with
    | none => .error (.file .notUtf8)
    | some text => ofToml m text

/-! ## Writing -/

/-- The section on commands as a value to write. -/
def commandsValue (s : CommandSettings) : Value :=
  .record [("target_router", .text s.targetRouter), ("retry_delay_ms", .integer s.retryDelay),
    ("request_timeout_ms", .integer s.requestTimeout)]

/-- The section on naming as a value to write. -/
def namingValue (s : NamingRules) : Value :=
  .record [("domain_route", .text s.domainRoute),
    ("observed_participant", .text s.observedParticipant),
    ("remote_participant", .text s.remoteParticipant),
    ("default_partition_label", .text s.defaultPartitionLabel),
    ("session_name", .text s.sessionName), ("route_name", .text s.routeName),
    ("session_config", .text s.sessionConfig), ("route_config", .text s.routeConfig)]

/-- The section on filters as a value to write. -/
def filtersValue (s : FilterSettings) : Value :=
  .record [("ignore_builtin_topics", .boolean s.ignoreBuiltinTopics),
    ("ignore_wildcard_partitions", .boolean s.ignoreWildcardPartitions),
    ("topics", s.topics.value), ("ignore_partitions", .texts s.ignorePartitions),
    ("ignored_participants", .texts s.ignoredParticipants)]

/-- Settings as a value to write. -/
def value (s : Settings) : Value :=
  .record [("name", .text s.name), ("log_level", .text s.logLevel),
    ("commander", commandsValue s.commands), ("naming", namingValue s.naming),
    ("filters", filtersValue s.filters)]

end Settings

end RoutingSessions
