/-
  RoutingSessions.Request.Document — requests and responses in structured text.

  A request leaves out the name and the payload that it does not have; a response
  without a message has an empty one.

  Main statements:
    * `Request.read_node`, `Response.read_node` — what is written as a tree reads
      back.
-/
import RoutingSessions.Document.Decode
import RoutingSessions.Request

namespace RoutingSessions

open RoutingSessions.Document

/-! ## Requests -/

namespace Request

/-- The actions by name. -/
def actions : List (String × Action) := [("create", .create), ("delete", .delete)]

/-- The fields of a request. -/
def record : Record Request where
  name := "struct CommandRequest"
  fields := [
    .of "kind" true (readChoice actions) fun v r => { r with action := v },
    .of "target_router" true readText fun v r => { r with router := v },
    .of "resource" true readText fun v r => { r with resource := v },
    .of "name" false readOptionalText fun v r => { r with name := v },
    .of "body" false readOptionalText fun v r => { r with body := v }]
  blank := ⟨.create, "", "", none, none⟩

/-- Decodes a request. -/
def read : Decoder Request := record.read

/-- A field that is left out if there is nothing in it. -/
def optionalField (name : String) : Option String → List (String × Value)
  | none => []
  | some s => [(name, .text s)]

/-- A request as a value to write. -/
def value (r : Request) : Value :=
  .record ([("kind", .text r.action.label), ("target_router", .text r.router),
    ("resource", .text r.resource)] ++ optionalField "name" r.name ++ optionalField "body" r.body)

theorem read_node (ctx : Context) (r : Request) : read ctx r.value.node = .ok r := by
  obtain ⟨action, router, resource, name, body⟩ := r
  cases action <;> cases name <;> cases body <;>
    simp [read, record, Record.read, value, optionalField, Value.node, Value.entries,
      Record.readEntries, Field.of, readChoice, namedChoice, actions, Action.label, Node.ofText,
      readText, readOptionalText, Record.missing?, Except.map]

end Request

/-! ## Responses -/

namespace Response

/-- The outcomes by name. -/
def outcomes : List (String × Bool) := [("ok", true), ("error", false)]

/-- The fields of a response. -/
def record : Record Response where
  name := "struct CommandResponse"
  fields := [
    .of "kind" true (readChoice outcomes) fun v r => { r with acknowledged := v },
    .of "message" false readText fun v r => { r with message := v }]
  blank := ⟨true, ""⟩

/-- Decodes a response. -/
def read : Decoder Response := record.read

/-- The name of a response's outcome. -/
def label (r : Response) : String := if r.acknowledged then "ok" else "error"

/-- A response as a value to write. -/
def value (r : Response) : Value :=
  .record [("kind", .text r.label), ("message", .text r.message)]

theorem read_node (ctx : Context) (r : Response) : read ctx r.value.node = .ok r := by
  obtain ⟨acknowledged, message⟩ := r
  cases acknowledged <;>
    simp [read, record, Record.read, value, label, Value.node, Value.entries,
      Record.readEntries, Field.of, readChoice, namedChoice, outcomes, Node.ofText,
      readText, Record.missing?, Except.map]

end Response

end RoutingSessions
