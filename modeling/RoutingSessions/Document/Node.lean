/-
  RoutingSessions.Document.Node — structured text, read as far as it goes.

  Reading a text gives a tree even if the text is malformed or ends early: where it
  fails, the tree holds the fault.  Whoever walks the tree in the order of the text
  meets the first thing that is wrong, whether it is the text or what it says.

  Some tokens fail only if their value is asked for, such as a number that no
  floating-point value reaches or half of a surrogate pair; they carry both what
  reading gives and what passing over them gives.

  Main statement:
    * `Value.skip_node` — the tree of a value holds no fault.
-/

namespace RoutingSessions.Document

/-! ## What a text can say -/

/-- What is wrong with a text. -/
inductive Fault where
  /-- The text breaks the grammar. -/
  | malformed
  /-- The text ends before the grammar allows it. -/
  | cutShort
deriving DecidableEq

/-- A value that is neither text nor structured. -/
inductive Plain where
  | null
  | boolean (b : Bool)
  | integer (i : Int)
  /-- A floating-point number, known by the form in which diagnostics show it. -/
  | float (shown : String)
  /-- A date or a time. -/
  | instant
deriving DecidableEq

/-- The outermost form of a value. -/
inductive Form where
  | plain (p : Plain)
  | text (s : String)
  | list
  | table
deriving DecidableEq

/-! ## Trees -/

/-- How a list is written. -/
inductive ListStyle where
  /-- Between brackets. -/
  | bracketed
  /-- As tables, each below a header of its own. -/
  | headed
deriving DecidableEq

mutual

/-- A value as it stands in a text. -/
inductive Node where
  | plain (read : Except Fault Plain) (skip : Option Fault)
  | text (read : Except Fault String) (skip : Option Fault)
  | list (style : ListStyle) (items : Items)
  | table (entries : Entries)
  /-- No value stands here. -/
  | fault (f : Fault)

/-- The items of a list; at the end, what is wrong with the list. -/
inductive Items where
  | stop (fault : Option Fault)
  | item (node : Node) (rest : Items)

/-- The entries of a table; at the end, what is wrong with the table. -/
inductive Entries where
  | stop (fault : Option Fault)
  | entry (key : Except Fault String) (node : Node) (rest : Entries)

end

namespace Node

/-- A plain value without faults. -/
def ofPlain (p : Plain) : Node := .plain (.ok p) none

/-- A text without faults. -/
def ofText (s : String) : Node := .text (.ok s) none

/-- The outermost form of the value, if its token can be read. -/
def form : Node → Except Fault Form
  | .plain read _ => read.map .plain
  | .text read _ => read.map .text
  | .list _ _ => .ok .list
  | .table _ => .ok .table
  | .fault f => .error f

end Node

/-! ## Passing over a value -/

mutual

/-- The first fault met by passing over the value. -/
def Node.skip : Node → Option Fault
  | .plain _ skip => skip
  | .text _ skip => skip
  | .list _ items => items.skip
  | .table entries => entries.skip
  | .fault f => some f

/-- The first fault met by passing over the items. -/
def Items.skip : Items → Option Fault
  | .stop fault => fault
  | .item node rest =>
    match node.skip with
    | some f => some f
    | none => rest.skip

/-- The first fault met by passing over the entries. -/
def Entries.skip : Entries → Option Fault
  | .stop fault => fault
  | .entry _ node rest =>
    match node.skip with
    | some f => some f
    | none => rest.skip

end

/-! ## Taking a value in -/

mutual

/-- The first fault met by reading everything in the value, when lists and tables may be nested
`room` deep. -/
def Node.readFault (room : Nat) : Node → Option Fault
  | .plain (.ok _) _ => none
  | .plain (.error f) _ => some f
  | .text (.ok _) _ => none
  | .text (.error f) _ => some f
  | .list _ items => if room = 0 then some .malformed else items.readFault (room - 1)
  | .table entries => if room = 0 then some .malformed else entries.readFault (room - 1)
  | .fault f => some f

/-- The first fault met by reading the items. -/
def Items.readFault (room : Nat) : Items → Option Fault
  | .stop fault => fault
  | .item node rest =>
    match node.readFault room with
    | some f => some f
    | none => rest.readFault room

/-- The first fault met by reading the entries. -/
def Entries.readFault (room : Nat) : Entries → Option Fault
  | .stop fault => fault
  | .entry (.error f) _ _ => some f
  | .entry (.ok _) node rest =>
    match node.readFault room with
    | some f => some f
    | none => rest.readFault room

end

/-! ## Values to write -/

/-- A value to be written as text. -/
inductive Value where
  | boolean (b : Bool)
  | integer (i : Int)
  | text (s : String)
  | texts (l : List String)
  | record (fields : List (String × Value))

/-- The items of a list of texts. -/
def Items.ofTexts : List String → Items
  | [] => .stop none
  | s :: rest => .item (.ofText s) (.ofTexts rest)

mutual

/-- The tree of a value. -/
def Value.node : Value → Node
  | .boolean b => .ofPlain (.boolean b)
  | .integer i => .ofPlain (.integer i)
  | .text s => .ofText s
  | .texts l => .list .bracketed (.ofTexts l)
  | .record fields => .table (Value.entries fields)

/-- The tree of a record's fields. -/
def Value.entries : List (String × Value) → Entries
  | [] => .stop none
  | (name, v) :: rest => .entry (.ok name) v.node (Value.entries rest)

end

theorem Items.skip_ofTexts (l : List String) : (Items.ofTexts l).skip = none := by
  induction l with
  | nil => rfl
  | cons s l ih => simp [Items.ofTexts, Items.skip, Node.ofText, Node.skip, ih]

mutual

theorem Value.skip_node (v : Value) : v.node.skip = none := by
  match v with
  | .boolean _ => rfl
  | .integer _ => rfl
  | .text _ => rfl
  | .texts l => simp [Value.node, Node.skip, Items.skip_ofTexts]
  | .record fields => simp [Value.node, Node.skip, Value.skip_entries fields]

theorem Value.skip_entries (fields : List (String × Value)) :
    (Value.entries fields).skip = none := by
  match fields with
  | [] => rfl
  | (name, v) :: rest =>
    simp [Value.entries, Entries.skip, Value.skip_node v, Value.skip_entries rest]

end

end RoutingSessions.Document
