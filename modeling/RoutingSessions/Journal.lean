/-
  RoutingSessions.Journal — what is worth noting while the service runs.

  A note has a level, a message and named fields.  Notes on a command have the text
  of its resource among their fields, under `key`.
-/
import RoutingSessions.Document.Node
import RoutingSessions.Handle
import RoutingSessions.Request

namespace RoutingSessions

open RoutingSessions.Document

/-! ## Notes -/

/-- How much a note matters. -/
inductive Level where
  | error
  | warning
  | info
  | debug
  | trace
deriving DecidableEq, Inhabited

/-- How an attempt failed. -/
inductive Failure where
  /-- The engine refused. -/
  | refused (message : String)
  /-- No answer came in time. -/
  | timeout
deriving DecidableEq

/-- Something worth noting. -/
inductive Note where
  /-- A filter ignores the endpoint. -/
  | endpointIgnored (topic : String) (handle : Handle)
  /-- A filter ignores the partition. -/
  | partitionIgnored (topic partition : String)
  /-- Delivery ended in good order. -/
  | deliveryEnded
  /-- Delivery had broken down before it was ended. -/
  | deliveryBroken
  /-- There is no delivery any more for so many changes. -/
  | undeliverable (count : Nat)
  /-- Delivery has broken down, and the changes from here on are dropped. -/
  | deliveryStopped
  /-- A command took the place of an older one for the same resource. -/
  | superseded (resource : Resource) (old new : Action)
  /-- The outcome of an attempt came too late to matter. -/
  | discarded (resource : Resource) (attempt : Nat)
  /-- The engine did as it was told. -/
  | acknowledged (resource : Resource) (action : Action) (entity : String) (attempt : Nat)
  /-- An attempt failed, and there will be another. -/
  | failed (resource : Resource) (action : Action) (entity : String) (attempt delay : Nat)
      (failure : Failure)
  /-- An attempt broke down, and there will be another. -/
  | broken (resource : Resource) (attempt delay : Nat)
  /-- No more commands are taken; so many were dropped. -/
  | shutDown (dropped : Nat)
  /-- A change of a session could not be made into a command. -/
  | unschedulable (session : Session) (e : CommandError)
deriving DecidableEq

namespace Note

/-! ## What a note says -/

/-- How much the note matters. -/
def level : Note → Level
  | endpointIgnored _ _ => .trace
  | partitionIgnored _ _ => .trace
  | deliveryEnded => .debug
  | deliveryBroken => .warning
  | undeliverable _ => .warning
  | deliveryStopped => .warning
  | superseded _ _ _ => .debug
  | discarded _ _ => .debug
  | acknowledged _ _ _ _ => .info
  | failed _ _ _ _ _ _ => .error
  | broken _ _ _ => .error
  | shutDown _ => .info
  | unschedulable _ _ => .error

/-- The wording of the note. -/
def message : Note → String
  | endpointIgnored _ _ => "endpoint ignored by filter"
  | partitionIgnored _ _ => "partition ignored by filter"
  | deliveryEnded => "observer dispatch thread exiting"
  | deliveryBroken => "observer dispatch thread panicked"
  | undeliverable _ => "observer closed; dropping lifecycle events"
  | deliveryStopped => "observer dispatch thread stopped; dropping lifecycle event"
  | superseded _ _ _ => "intent superseded"
  | discarded _ _ => "discarding result of canceled intent"
  | acknowledged _ action _ _ => s!"{action.label} acknowledged"
  | failed _ action _ _ _ (.refused message) => s!"{action.label} rejected: {message}"
  | failed _ action _ _ _ .timeout => s!"{action.label} timed out"
  | broken _ _ _ => "transport task failed"
  | shutDown _ => "commander shut down"
  | unschedulable _ e => s!"cannot schedule routing command: {e.message}"

/-- The resource that the note is about. -/
def resource? : Note → Option Resource
  | superseded k _ _ => some k
  | discarded k _ => some k
  | acknowledged k _ _ _ => some k
  | failed k _ _ _ _ _ => some k
  | broken k _ _ => some k
  | _ => none

/-- The fields of the note, apart from the resource. -/
def details : Note → List (String × Value)
  | endpointIgnored topic handle => [("topic", .text topic), ("handle", .text (Octets.text handle))]
  | partitionIgnored topic partition => [("topic", .text topic), ("partition", .text partition)]
  | deliveryEnded => []
  | deliveryBroken => []
  | undeliverable count => [("dropped", .integer count)]
  | deliveryStopped => []
  | superseded _ old new => [("superseded", .text old.label), ("by", .text new.label)]
  | discarded _ attempt => [("attempt", .integer attempt)]
  | acknowledged _ _ entity attempt => [("entity", .text entity), ("attempt", .integer attempt)]
  | failed _ _ entity attempt delay _ =>
    [("entity", .text entity), ("attempt", .integer attempt), ("retry_in_ms", .integer delay)]
  | broken _ attempt delay => [("attempt", .integer attempt), ("retry_in_ms", .integer delay)]
  | shutDown dropped => [("canceled", .integer dropped)]
  | unschedulable s _ => [("topic", .text s.topic), ("partition", .text s.partition)]

/-- The text of the resource that the note is about; empty if there is none. -/
def key (n : Note) : String :=
  match n.resource? with
  | some k => k.text
  | none => ""

/-- The fields of the note. -/
def fields (n : Note) : List (String × Value) :=
  match n.resource? with
  | some k => ("key", .text k.text) :: n.details
  | none => n.details

end Note

/-! ## Levels by name -/

namespace Level

/-- The upper-case label of a level. -/
def label : Level → String
  | error => "ERROR"
  | warning => "WARN"
  | info => "INFO"
  | debug => "DEBUG"
  | trace => "TRACE"

/-- How far down the list of levels a level is, the gravest being the first. -/
def depth : Level → Nat
  | error => 1
  | warning => 2
  | info => 3
  | debug => 4
  | trace => 5

/-- How far down the list of levels notes are shown, by the name of the last level shown. -/
def depthOfName (name : String) : Nat :=
  match name.toLower with
  | "off" => 0
  | "error" => error.depth
  | "warn" => warning.depth
  | "debug" => debug.depth
  | "trace" => trace.depth
  | _ => info.depth

end Level

/-! ## Notes in writing -/

/-- The note as a value to write. -/
def Note.value (n : Note) : Value :=
  .record ([("level", .text n.level.label), ("message", .text n.message)] ++ n.fields)

end RoutingSessions
