/-
  RoutingSessions.Trace — recorded discovery, one notification a line.

  A line holds a JSON record.  Blank lines and lines that begin with a number sign
  are passed over.  Reading stops at the first line that is not UTF-8 or does not
  parse; the error counts all lines, from one.
-/
import RoutingSessions.Endpoint
import RoutingSessions.Json.Reader

namespace RoutingSessions

open RoutingSessions.Document

/-! ## Notifications -/

/-- What discovery says of an endpoint. -/
inductive Occurrence where
  | discovered
  | modified
  | lost
deriving DecidableEq, Inhabited

/-- One notification of discovery. -/
structure Notification where
  occurrence : Occurrence
  endpoint : Endpoint
deriving DecidableEq

/-- The label of an occurrence. -/
def Occurrence.label : Occurrence → String
  | .discovered => "discovered"
  | .modified => "modified"
  | .lost => "lost"

/-- The lower-case name of a direction. -/
def Direction.name : Direction → String
  | .incoming => "in"
  | .outgoing => "out"

/-! ## Errors -/

/-- Why a file gives no text. -/
inductive FileError where
  | notFound
  | notUtf8
deriving DecidableEq

/-- Why a trace cannot be read. -/
inductive TraceError where
  | file (e : FileError)
  | json (line : Nat) (trouble : Trouble)
  | handle (line : Nat) (e : HandleError)
deriving DecidableEq

/-- The wording of an invalid handle. -/
def invalidHandleMessage (line : Nat) (e : HandleError) : String :=
  s!"line {line}: invalid handle: {e.message}"

/-! ## Lines -/

namespace Trace

/-- A line as it is written. -/
structure Entry where
  occurrence : Occurrence := .discovered
  handle : String := ""
  direction : Direction := .incoming
  topic : String := ""
  typeName : String := ""
  partitions : List String := []

/-- The occurrences by name. -/
def occurrences : List (String × Occurrence) :=
  [("discovered", .discovered), ("modified", .modified), ("lost", .lost)]

/-- The directions by name. -/
def directions : List (String × Direction) := [("in", .incoming), ("out", .outgoing)]

/-- The fields of a line. -/
def record : Record Entry where
  name := "struct ScriptLine"
  fields := [
    .of "event" true (readChoice occurrences) fun v e => { e with occurrence := v },
    .of "handle" true readText fun v e => { e with handle := v },
    .of "direction" true (readChoice directions) fun v e => { e with direction := v },
    .of "topic" true readText fun v e => { e with topic := v },
    .of "type_name" true readText fun v e => { e with typeName := v },
    .of "partitions" false readTexts fun v e => { e with partitions := v }]
  blank := {}

/-- The notification that a line describes; `line` is its number. -/
def notification (line : Nat) (e : Entry) : Except TraceError Notification :=
  match Handle.read e.handle with
  | .error err => .error (.handle line err)
  | .ok h => .ok ⟨e.occurrence, ⟨h, e.direction, e.topic, e.typeName, e.partitions⟩⟩

/-- The line is blank or a comment. -/
def isIdle (trimmed : List Char) : Bool := trimmed.isEmpty || trimmed.head? = some '#'

/-- Reads one line; an idle one holds nothing. -/
def readLine (text : String) (line : Nat) : Except TraceError (Option Notification) :=
  let trimmed := trim text.toList
  if isIdle trimmed then .ok none
  else
    match Json.decode record.read (String.ofList trimmed) with
    | .error t => .error (.json line t)
    | .ok e => (notification line e).map some

/-! ## Whole traces -/

/-- Reads a line of bytes. -/
def readByteLine (bytes : List UInt8) (line : Nat) : Except TraceError (Option Notification) :=
  match decodeUtf8? bytes with
  | none => .error (.file .notUtf8)
  | some text => readLine text line

/-- Reads the lines, of which the first has the number `line`. -/
def readLines (line : Nat) : List (List UInt8) → Except TraceError (List Notification)
  | [] => .ok []
  | l :: ls =>
    match readByteLine l line with
    | .error e => .error e
    | .ok found =>
      match readLines (line + 1) ls with
      | .error e => .error e
      | .ok rest => .ok (found.toList ++ rest)

/-- Reads a trace. -/
def read (bytes : List UInt8) : Except TraceError (List Notification) :=
  readLines 1 (byteLines bytes)

/-- Reads a trace from a file, if there is one. -/
def load (file : Option (List UInt8)) : Except TraceError (List Notification) :=
  match file with
  | none => .error (.file .notFound)
  | some bytes => read bytes

end Trace

end RoutingSessions
