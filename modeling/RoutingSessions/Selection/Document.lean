/-
  RoutingSessions.Selection.Document — topic selections in structured text.

  A selection is a table of `type`, which names the kind, and `value`, which holds
  the patterns; the kind that needs none has no `value`.  The two may come in either
  order and among other entries, or as a list of two, which begins with the plain
  name of the kind.  A value that comes before its kind is first taken in as a whole,
  whatever it will turn out to be.

  Main statement:
    * `Selection.read_node` — what is written as a tree reads back.
-/
import RoutingSessions.Document.Decode
import RoutingSessions.Selection

namespace RoutingSessions

open RoutingSessions.Document

namespace Selection

/-! ## Kinds -/

/-- The kind of a selection. -/
inductive Kind where
  | all
  | only
  | allBut
  | pattern
deriving DecidableEq

/-- The kinds by name. -/
def kinds : List (String × Kind) :=
  [("All", .all), ("Include", .only), ("Exclude", .allBut), ("Pattern", .pattern)]

/-- How diagnostics name a selection. -/
def typeName : String := "adjacently tagged enum TopicSelection"

/-- Decodes the value that goes with a kind. -/
def readContent (ctx : Context) (kind : Kind) (node : Node) : Except Trouble Selection :=
  match kind with
  | .all => (readNothing "unit variant TopicSelection::All" node).map fun _ => .all
  | .only => (readTexts ctx node).map .only
  | .allBut => (readTexts ctx node).map .allBut
  | .pattern => (readText ctx node).map .pattern

/-! ## Tables -/

/-- What was read of a selection's table. -/
inductive Progress where
  | start
  | kind (k : Kind)
  | content (node : Node)
  | complete (s : Selection)

/-- The selection that a table amounts to when no more entries come. -/
def Progress.finish : Progress → Except Trouble Selection
  | .start => .error (.data (.missingField "type"))
  | .content _ => .error (.data (.missingField "type"))
  | .kind .all => .ok .all
  | .kind _ => .error (.data (.missingField "value"))
  | .complete s => .ok s

/-- Takes in the kind. -/
def Progress.readKind (ctx : Context) (node : Node) : Progress → Except Trouble Progress
  | .start => (readChoice kinds ctx node).map .kind
  | .content c => do
    let kind ← readChoice kinds ctx node
    (readContent ctx kind c).map .complete
  | _ => .error (.data (.duplicateField "type"))

/-- Takes in the value. -/
def Progress.readValue (ctx : Context) (node : Node) : Progress → Except Trouble Progress
  | .start =>
    match node.readFault ctx.room with
    | some f => .error (.fault f)
    | none => .ok (.content node)
  | .kind k => (readContent ctx k node).map .complete
  | _ => .error (.data (.duplicateField "value"))

/-- Decodes the entries of a selection's table. -/
def readEntries (ctx : Context) (progress : Progress) : Entries → Except Trouble Selection
  | .stop none => progress.finish
  | .stop (some f) => .error (.fault f)
  | .entry (.error f) _ _ => .error (.fault f)
  | .entry (.ok name) node rest =>
    if name = "type" then
      match progress.readKind ctx node with
      | .error e => .error e
      | .ok progress => readEntries ctx progress rest
    else if name = "value" then
      match progress.readValue ctx node with
      | .error e => .error e
      | .ok progress => readEntries ctx progress rest
    else
      match node.skip with
      | some f => .error (.fault f)
      | none => readEntries ctx progress rest

/-! ## Selections -/

/-- Decodes the items of a selection's list. -/
def readItems (ctx : Context) : Items → Except Trouble Selection
  | .stop none => .error (.data (.invalidLength 0 typeName))
  | .stop (some f) => .error (.fault f)
  | .item kindNode rest => do
    let kind ← readName kinds ctx kindNode
    match rest with
    | .stop none => throw (.data (.invalidLength 1 typeName))
    | .stop (some f) => throw (.fault f)
    | .item node rest =>
      let s ← readContent ctx kind node
      Record.readSurplus ctx 2 s rest

/-- Decodes a selection. -/
def read : Decoder Selection := fun ctx node =>
  match node with
  | .table entries => readEntries ctx.inside .start entries
  | .plain (.ok .instant) _ => readEntries ctx .start (.stop none)
  | .list _ items => readItems ctx.inside items
  | node => mismatch node typeName

/-- A selection as a value to write. -/
def value : Selection → Value
  | .all => .record [("type", .text "All")]
  | .only l => .record [("type", .text "Include"), ("value", .texts l)]
  | .allBut l => .record [("type", .text "Exclude"), ("value", .texts l)]
  | .pattern p => .record [("type", .text "Pattern"), ("value", .text p)]

theorem read_node (ctx : Context) (s : Selection) : read ctx s.value.node = .ok s := by
  cases s <;>
    simp [read, value, Value.node, Value.entries, readEntries, Progress.readKind, readChoice,
      namedChoice, kinds, Node.ofText, Progress.finish, Progress.readValue, readContent,
      readTexts_ofTexts, readText, Except.map]

end Selection

end RoutingSessions
