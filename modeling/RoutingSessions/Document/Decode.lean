/-
  RoutingSessions.Document.Decode — from trees to the values of the domain.

  Decoding walks a tree in the order of the text and stops at the first trouble: a
  fault of the text, or a value that does not fit.  A record may be written as a
  table of its fields in any order, or as a list of them in order of declaration;
  unknown fields are passed over, whatever they hold.  A choice between names may
  also be written as a table whose one key is the name.

  Formats differ in what they say of a surplus item and of a value that cannot be a
  choice, so decoding is told the format.

  Main statement:
    * `readTexts_ofTexts` — a list of texts reads back.
-/
import RoutingSessions.Document.Node
import RoutingSessions.Text.Quoted

namespace RoutingSessions.Document

/-! ## Trouble -/

/-- Why a value does not fit. -/
inductive DataError where
  | invalidType (found : Form) (expected : String)
  | invalidValue (found : Form) (expected : String)
  | invalidLength (length : Nat) (expected : String)
  | missingField (name : String)
  | duplicateField (name : String)
  | unknownName (name : String) (names : List String)
  /-- A table that should name a choice has `count` entries. -/
  | notOneEntry (count : Nat)
  /-- A value that should name a choice is neither text nor table. -/
  | notChoice
  /-- A named choice comes with a value that is not an empty table or list. -/
  | choiceValue (wanted : String)
deriving DecidableEq

/-- What can be wrong with a document. -/
inductive Trouble where
  | fault (f : Fault)
  | data (e : DataError)
deriving DecidableEq

/-- How diagnostics name a plain value. -/
def Plain.describe : Plain → String
  | .null => "null"
  | .boolean b => s!"boolean `{b}`"
  | .integer i => s!"integer `{i}`"
  | .float shown => s!"floating point `{shown}`"
  | .instant => "map"

/-- How diagnostics name what they found. -/
def Form.describe : Form → String
  | .plain p => p.describe
  | .text s => s!"string {quoted s}"
  | .list => "sequence"
  | .table => "map"

/-- The names between which there is a choice, as diagnostics list them. -/
def describeNames : List String → String
  | [] => "there are no variants"
  | [a] => s!"expected `{a}`"
  | [a, b] => s!"expected `{a}` or `{b}`"
  | names => "expected one of " ++ ", ".intercalate (names.map fun n => s!"`{n}`")

/-- The wording of a data error. -/
def DataError.message : DataError → String
  | .invalidType found expected => s!"invalid type: {found.describe}, expected {expected}"
  | .invalidValue found expected => s!"invalid value: {found.describe}, expected {expected}"
  | .invalidLength length expected => s!"invalid length {length}, expected {expected}"
  | .missingField name => s!"missing field `{name}`"
  | .duplicateField name => s!"duplicate field `{name}`"
  | .unknownName name names => s!"unknown variant `{name}`, {describeNames names}"
  | .notOneEntry 0 => "wanted exactly 1 element, found 0 elements"
  | .notOneEntry _ => "wanted exactly 1 element, more than 1 element"
  | .notChoice => "wanted string or table"
  | .choiceValue wanted => s!"expected {wanted}"

/-! ## Formats -/

/-- The format that a tree was read from. -/
inductive Format where
  /-- JSON text. -/
  | json
  /-- JSON that was read before as a value of its own. -/
  | jsonValue
  /-- TOML. -/
  | toml
deriving DecidableEq

/-- Where in a document decoding is. -/
structure Context where
  format : Format
  /-- How many lists and tables may still be opened, one inside the other. -/
  room : Nat

/-- The context inside a list or table. -/
def Context.inside (ctx : Context) : Context := { ctx with room := ctx.room - 1 }

/-- Turns a value of the tree into one of the domain. -/
abbrev Decoder (α : Type) := Context → Node → Except Trouble α

/-- The trouble with a value of the wrong form. -/
def mismatch {α : Type} (node : Node) (expected : String) : Except Trouble α :=
  match node.form with
  | .ok found => .error (.data (.invalidType found expected))
  | .error f => .error (.fault f)

/-- Fails with a fault, if there is one. -/
def refuse (fault : Option Fault) : Except Trouble Unit :=
  match fault with
  | none => .ok ()
  | some f => .error (.fault f)

/-! ## Simple values -/

/-- A text. -/
def readText : Decoder String := fun _ node =>
  match node with
  | .text (.ok s) _ => .ok s
  | node => mismatch node "a string"

/-- A truth value. -/
def readBoolean : Decoder Bool := fun _ node =>
  match node with
  | .plain (.ok (.boolean b)) _ => .ok b
  | node => mismatch node "a boolean"

/-- A whole number from zero to 2⁶⁴ - 1. -/
def readCount : Decoder Nat := fun _ node =>
  match node with
  | .plain (.ok (.integer i)) _ =>
    if 0 ≤ i then .ok i.toNat
    else .error (.data (.invalidValue (.plain (.integer i)) "u64"))
  | node => mismatch node "u64"

/-- A text, or nothing in the place of one. -/
def readOptionalText : Decoder (Option String) := fun ctx node =>
  match node with
  | .plain (.ok .null) _ => .ok none
  | node => (readText ctx node).map some

/-- The texts of a list. -/
def readTextItems (ctx : Context) : Items → Except Trouble (List String)
  | .stop none => .ok []
  | .stop (some f) => .error (.fault f)
  | .item node rest =>
    match readText ctx node with
    | .error e => .error e
    | .ok s =>
      match readTextItems ctx rest with
      | .error e => .error e
      | .ok l => .ok (s :: l)

/-- A list of texts. -/
def readTexts : Decoder (List String) := fun ctx node =>
  match node with
  | .list _ items => readTextItems ctx.inside items
  | node => mismatch node "a sequence"

theorem readTextItems_ofTexts (ctx : Context) (l : List String) :
    readTextItems ctx (.ofTexts l) = .ok l := by
  induction l with
  | nil => rfl
  | cons s l ih => simp [Items.ofTexts, readTextItems, readText, Node.ofText, ih]

theorem readTexts_ofTexts (ctx : Context) (style : ListStyle) (l : List String) :
    readTexts ctx (.list style (.ofTexts l)) = .ok l := readTextItems_ofTexts ctx.inside l

/-! ## Choices -/

/-- The value that goes with a name. -/
def namedChoice {α : Type} (choices : List (String × α)) (name : String) : Except Trouble α :=
  match choices.find? fun c => c.1 = name with
  | some c => .ok c.2
  | none => .error (.data (.unknownName name (choices.map (·.1))))

/-- A choice that is given by its plain name. -/
def readName {α : Type} (choices : List (String × α)) : Decoder α := fun _ node =>
  match node with
  | .text (.ok name) _ => namedChoice choices name
  | node => mismatch node "variant identifier"

/-- Nothing, where nothing is expected. -/
def readNothing (expected : String) (node : Node) : Except Trouble Unit :=
  match node with
  | .plain (.ok .null) _ => .ok ()
  | node => mismatch node expected

/-- The number of entries of a table. -/
def Entries.count : Entries → Nat
  | .stop _ => 0
  | .entry _ _ rest => rest.count + 1

/-- The name of a TOML value's form. -/
def Plain.tomlName : Plain → String
  | .null => "none"
  | .boolean _ => "boolean"
  | .integer _ => "integer"
  | .float _ => "float"
  | .instant => "datetime"

/-- Accepts the empty table or list that TOML has with the name of a choice. -/
def readEmpty (node : Node) : Except Trouble Unit :=
  match node with
  | .list _ (.stop _) => .ok ()
  | .list .headed _ => .error (.data (.choiceValue "empty array"))
  | .list .bracketed _ => .error (.data (.choiceValue "empty table"))
  | .table (.stop _) => .ok ()
  | .table _ => .error (.data (.choiceValue "empty table"))
  | .text _ _ => .error (.data (.choiceValue "table, found string"))
  | .plain (.ok p) _ => .error (.data (.choiceValue s!"table, found {p.tomlName}"))
  | .plain (.error f) _ => .error (.fault f)
  | .fault f => .error (.fault f)

/-- A choice written as a table whose one key is the name, in JSON text. -/
def readJsonChoice {α : Type} (choices : List (String × α)) : Entries → Except Trouble α
  | .stop none => .error (.fault .malformed)
  | .stop (some f) => .error (.fault f)
  | .entry (.error f) _ _ => .error (.fault f)
  | .entry (.ok name) node rest => do
    let choice ← namedChoice choices name
    readNothing "unit" node
    match rest with
    | .stop none => return choice
    | .stop (some f) => throw (.fault f)
    | _ => throw (.fault .malformed)

/-- A choice between names. -/
def readChoice {α : Type} (choices : List (String × α)) : Decoder α := fun ctx node =>
  match ctx.format, node with
  | _, .text (.ok name) _ => namedChoice choices name
  | _, .text (.error f) _ => .error (.fault f)
  | _, .fault f => .error (.fault f)
  | .json, .table entries => readJsonChoice choices entries
  | .json, _ => .error (.fault .malformed)
  | .toml, .table (.entry (.ok name) value (.stop _)) => do
    let choice ← namedChoice choices name
    readEmpty value
    return choice
  | .toml, .table entries => .error (.data (.notOneEntry entries.count))
  | .toml, _ => .error (.data .notChoice)
  | .jsonValue, .table (.entry (.ok name) value (.stop _)) => do
    let choice ← namedChoice choices name
    readNothing "unit" value
    return choice
  | .jsonValue, .table _ => .error (.data (.invalidValue .table "map with a single key"))
  | .jsonValue, node => mismatch node "string or map"

/-! ## Records -/

/-- A field of a record of type `α`. -/
structure Field (α : Type) where
  name : String
  /-- The field has no default. -/
  required : Bool
  /-- Decodes the field's value and puts it into the record. -/
  set : Context → Node → α → Except Trouble α

/-- A record: what it is called, its fields in order of declaration, and the record in which
every field has its default. -/
structure Record (α : Type) where
  name : String
  fields : List (Field α)
  blank : α

/-- The field of a decoder and an update. -/
def Field.of {α β : Type} (name : String) (required : Bool) (decode : Decoder β)
    (put : β → α → α) : Field α where
  name := name
  required := required
  set ctx node r := (decode ctx node).map (put · r)

namespace Record

variable {α : Type}

/-- The first required field that was not seen. -/
def missing? (seen : List String) (fields : List (Field α)) : Option String :=
  (fields.find? fun f => f.required && !seen.contains f.name).map (·.name)

/-- Decodes the entries of a table into `r`; `seen` lists the fields that were there. -/
def readEntries (rec : Record α) (ctx : Context) (seen : List String) (r : α) :
    Entries → Except Trouble α
  | .stop none =>
    match missing? seen rec.fields with
    | some name => .error (.data (.missingField name))
    | none => .ok r
  | .stop (some f) => .error (.fault f)
  | .entry (.error f) _ _ => .error (.fault f)
  | .entry (.ok name) node rest =>
    match rec.fields.find? fun f => f.name = name with
    | none =>
      match node.skip with
      | some f => .error (.fault f)
      | none => readEntries rec ctx seen r rest
    | some field =>
      if seen.contains name then .error (.data (.duplicateField name))
      else
        match field.set ctx node r with
        | .error e => .error e
        | .ok r => readEntries rec ctx (name :: seen) r rest

/-- What is said of a list that goes on after the last of `count` fields. -/
def readSurplus (ctx : Context) (count : Nat) (r : α) : Items → Except Trouble α
  | .stop none => .ok r
  | .stop (some f) => .error (.fault f)
  | .item node rest =>
    match ctx.format with
    | .json => .error (.fault .malformed)
    | .toml => .ok r
    | .jsonValue => .error (.data (.invalidLength (count + itemCount (.item node rest))
        "fewer elements in array"))
where
  /-- The number of items. -/
  itemCount : Items → Nat
    | .stop _ => 0
    | .item _ rest => itemCount rest + 1

/-- How diagnostics name the list form of a record. -/
def listForm (rec : Record α) : String :=
  s!"{rec.name} with {rec.fields.length} element" ++ if rec.fields.length = 1 then "" else "s"

/-- Decodes the items of a list into `r`, for the fields from number `index` on. -/
def readItems (rec : Record α) (ctx : Context) (index : Nat) (r : α) :
    List (Field α) → Items → Except Trouble α
  | [], items => readSurplus ctx index r items
  | field :: fields, .item node rest =>
    match field.set ctx node r with
    | .error e => .error e
    | .ok r => readItems rec ctx (index + 1) r fields rest
  | _ :: _, .stop (some f) => .error (.fault f)
  | field :: fields, .stop none =>
    if field.required then .error (.data (.invalidLength index rec.listForm))
    else readItems rec ctx (index + 1) r fields (.stop none)

/-- Decodes a record. -/
def read (rec : Record α) : Decoder α := fun ctx node =>
  match node with
  | .table entries => rec.readEntries ctx.inside [] rec.blank entries
  | .plain (.ok .instant) _ => rec.readEntries ctx [] rec.blank (.stop none)
  | .list _ items => rec.readItems ctx.inside 0 rec.blank rec.fields items
  | node => mismatch node rec.name

end Record

end RoutingSessions.Document
