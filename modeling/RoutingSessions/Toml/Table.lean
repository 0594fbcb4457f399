/-
  RoutingSessions.Toml.Table — tables that headers and dotted keys put together.

  A table is there because a header names it, because a longer header implies it, or
  because a dotted key passes through it.  A header may name a table that was only
  implied; nothing else may define a table or a key again.  The last table of an
  array of tables takes what follows its header.
-/
import RoutingSessions.Document.Node

namespace RoutingSessions.Toml

open RoutingSessions.Document

/-! ## Tables -/

/-- Why a table is there. -/
inductive Origin where
  /-- A header names it, or it is the document. -/
  | named
  /-- A longer header passes through it. -/
  | implied
  /-- A dotted key passes through it. -/
  | dotted
deriving DecidableEq

/-- What a key stands for. -/
inductive Slot where
  /-- A value; it is complete as it stands. -/
  | value (node : Node)
  | table (origin : Origin) (slots : List (String × Slot))
  /-- An array of tables, in order. -/
  | tables (list : List (List (String × Slot)))

/-- A table: the keys it holds, in order. -/
abbrev Slots := List (String × Slot)

/-- What the key stands for, if the table has it. -/
def find? (key : String) : Slots → Option Slot
  | [] => none
  | (k, s) :: rest => if k = key then some s else find? key rest

/-- The table with another slot in the place of the key's. -/
def replace (key : String) (slot : Slot) : Slots → Slots
  | [] => []
  | (k, s) :: rest => if k = key then (k, slot) :: rest else (k, s) :: replace key slot rest

/-- The table without the key. -/
def remove (key : String) (slots : Slots) : Slots := slots.filter (·.1 ≠ key)

/-- A change of a table, given why the table is there; it fails if the change is not allowed. -/
abbrev Change := Origin → Slots → Option Slots

/-- Changes the last of the tables. -/
def changeLast (f : Slots → Option Slots) : List Slots → Option (List Slots)
  | [] => none
  | [t] => (f t).map ([·])
  | t :: rest => (changeLast f rest).map (t :: ·)

/-- Changes the table that the path leads to, making the tables on the way that are missing.
A dotted path does not lead into a table that a header names. -/
def descend (dotted : Bool) (change : Change) : List String → Change
  | [], origin, slots => change origin slots
  | key :: path, _, slots =>
    match find? key slots with
    | none =>
      let origin : Origin := if dotted then .dotted else .implied
      (descend dotted change path origin []).map fun t => slots ++ [(key, .table origin t)]
    | some (.value _) => none
    | some (.tables list) =>
      (changeLast (descend dotted change path .named) list).map fun l =>
        replace key (.tables l) slots
    | some (.table origin t) =>
      if dotted && origin = .named then none
      else (descend dotted change path origin t).map fun t => replace key (.table origin t) slots

/-! ## Changes -/

/-- Gives the key its value.  A dotted key belongs into a table that dotted keys made, and a
plain one into any other. -/
def putValue (key : String) (node : Node) (isDottedKey : Bool) : Change := fun origin slots =>
  if decide (origin = .dotted) ≠ isDottedKey then none
  else if (find? key slots).isSome then none
  else some (slots ++ [(key, .value node)])

/-- Opens the table that a header names. -/
def openTable (key : String) : Change := fun _ slots =>
  match find? key slots with
  | none => some (slots ++ [(key, .table .named [])])
  | some (.table .implied t) => some (remove key slots ++ [(key, .table .named t)])
  | some _ => none

/-- Opens one more table of an array. -/
def openItem (key : String) : Change := fun _ slots =>
  match find? key slots with
  | none => some (slots ++ [(key, .tables [[]])])
  | some (.tables list) => some (replace key (.tables (list ++ [[]])) slots)
  | some _ => none

/-- A path cut before its last key. -/
def splitLast : List String → Option (List String × String)
  | [] => none
  | [k] => some ([], k)
  | k :: ks => (splitLast ks).map fun r => (k :: r.1, r.2)

/-- Gives a key, dotted or not, its value in a table. -/
def assign (path : List String) (node : Node) : Change := fun origin slots =>
  match splitLast path with
  | none => none
  | some (parents, key) => descend true (putValue key node !parents.isEmpty) parents origin slots

/-- Opens what a header names: a table, or one more table of an array. -/
def openHeader (ofArray : Bool) (path : List String) : Change := fun origin slots =>
  match splitLast path with
  | none => none
  | some (parents, key) =>
    descend false (if ofArray then openItem key else openTable key) parents origin slots

/-! ## Trees -/

mutual

/-- The tree of a slot. -/
def Slot.node : Slot → Node
  | .value node => node
  | .table _ slots => .table (slotEntries slots)
  | .tables list => .list .headed (slotItems list)

/-- The entries of a table. -/
def slotEntries : List (String × Slot) → Entries
  | [] => .stop none
  | (key, slot) :: rest => .entry (.ok key) slot.node (slotEntries rest)

/-- The items of an array of tables. -/
def slotItems : List (List (String × Slot)) → Items
  | [] => .stop none
  | slots :: rest => .item (.table (slotEntries slots)) (slotItems rest)

end

end RoutingSessions.Toml
