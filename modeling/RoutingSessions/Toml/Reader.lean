/-
  RoutingSessions.Toml.Reader — TOML text as a tree.

  A document is a sequence of lines: headers, keys with their values, comments.  It
  is read as a whole before anything is made of it, so its tree holds no fault.
-/
import RoutingSessions.Document.Decode
import RoutingSessions.Toml.Scalar
import RoutingSessions.Toml.Table
import RoutingSessions.Toml.Text

namespace RoutingSessions.Toml

open RoutingSessions.Document

/-! ## Space and comments -/

/-- The text behind a comment, if it begins with one. -/
def skipComment : List Char → List Char
  | '#' :: s => s.dropWhile isVisible
  | s => s

/-- The text behind white space and a comment. -/
def skipToEnd (s : List Char) : List Char := skipComment (skipSpace s)

/-- The text behind white space, comments and line ends. -/
def skipLines (fuel : Nat) (s : List Char) : List Char :=
  match fuel with
  | 0 => s
  | fuel + 1 =>
    let rest := skipToEnd s
    match lineEnd? rest with
    | some t => skipLines fuel t
    | none => rest

/-- The text behind white space, comments and line ends. -/
def skipBlankLines (s : List Char) : List Char := skipLines (s.length + 1) s

/-! ## Keys -/

/-- A character of a key without quotes. -/
def isKeyChar (c : Char) : Bool := c.isAlphanum || c = '_' || c = '-'

/-- One part of a key, and the text after it. -/
def readSimpleKey (s : List Char) : Option (String × List Char) :=
  match s with
  | '"' :: s => (readBasic s).map fun r => (String.ofList r.1, r.2)
  | '\'' :: s => (readLiteral s).map fun r => (String.ofList r.1, r.2)
  | s =>
    let name := s.takeWhile isKeyChar
    if name.isEmpty then none else some (String.ofList name, s.dropWhile isKeyChar)

/-- A key of one or more parts, and the text after it and the white space around its points. -/
def readKeyParts (fuel : Nat) (s : List Char) : Option (List String × List Char) :=
  match fuel with
  | 0 => none
  | fuel + 1 =>
    match readSimpleKey (skipSpace s) with
    | none => none
    | some (name, s) =>
      match skipSpace s with
      | '.' :: s => (readKeyParts fuel s).map fun r => (name :: r.1, r.2)
      | s => some ([name], s)

/-- The nesting that a document may have. -/
def nestingLimit : Nat := 80

/-- A key, and the text after it. -/
def readKey (s : List Char) : Option (List String × List Char) :=
  match readKeyParts (s.length + 1) s with
  | some (path, s) => if path.length < nestingLimit then some (path, s) else none
  | none => none

/-- A key and the equals sign behind it, and the text after that. -/
def readKeyEquals (s : List Char) : Option (List String × List Char) :=
  match readKey s with
  | some (path, '=' :: s) => some (path, skipSpace s)
  | _ => none

/-! ## Values -/

mutual

/-- The value at the beginning of the text, and the text after it; `depth` counts the lists and
tables around it. -/
def readValue (fuel depth : Nat) (s : List Char) : Option (Node × List Char) :=
  match fuel with
  | 0 => none
  | fuel + 1 =>
    match s with
    | '"' :: _ => (readString s).map fun r => (.ofText (String.ofList r.1), r.2)
    | '\'' :: _ => (readString s).map fun r => (.ofText (String.ofList r.1), r.2)
    | '[' :: s =>
      if depth + 1 < nestingLimit then
        (readItems fuel (depth + 1) s).map fun r => (.list .bracketed r.1, r.2)
      else none
    | '{' :: s =>
      if depth + 1 < nestingLimit then
        match skipSpace s with
        | '}' :: s => some (.table (.stop none), s)
        | s => (readPairs fuel (depth + 1) [] s).map fun r => (.table (slotEntries r.1), r.2)
      else none
    | s => (readPlain s).map fun r => (.ofPlain r.1, r.2)

/-- The items of a list up to its closing bracket, and the text after that. -/
def readItems (fuel depth : Nat) (s : List Char) : Option (Items × List Char) :=
  match fuel with
  | 0 => none
  | fuel + 1 =>
    match skipBlankLines s with
    | ']' :: s => some (.stop none, s)
    | s =>
      match readValue fuel depth s with
      | none => none
      | some (node, s) =>
        match skipBlankLines s with
        | ']' :: s => some (.item node (.stop none), s)
        | ',' :: s => (readItems fuel depth s).map fun r => (.item node r.1, r.2)
        | _ => none

/-- The pairs of a table between braces, up to the closing one, and the text after that. -/
def readPairs (fuel depth : Nat) (slots : Slots) (s : List Char) : Option (Slots × List Char) :=
  match fuel with
  | 0 => none
  | fuel + 1 =>
    match readKeyEquals s with
    | none => none
    | some (path, s) =>
      match readValue fuel depth s with
      | none => none
      | some (node, s) =>
        match assign path node .named slots with
        | none => none
        | some slots =>
          match skipSpace s with
          | '}' :: s => some (slots, s)
          | ',' :: s => readPairs fuel depth slots s
          | _ => none

end

/-! ## Lines -/

/-- What a line does. -/
inductive Line where
  | idle
  | header (ofArray : Bool) (path : List String)
  | pair (path : List String) (node : Node)

/-- A header behind its opening brackets, and the text after it. -/
def readHeader (ofArray : Bool) (s : List Char) : Option (Line × List Char) :=
  match readKey s, ofArray with
  | some (path, ']' :: s), false => some (.header false path, s)
  | some (path, ']' :: ']' :: s), true => some (.header true path, s)
  | _, _ => none

/-- What a line does, and the text after that; `s` begins behind white space. -/
def readLine (s : List Char) : Option (Line × List Char) :=
  match s with
  | '[' :: '[' :: s => readHeader true s
  | '[' :: s => readHeader false s
  | s =>
    match readKeyEquals s with
    | none => none
    | some (path, s) => (readValue (2 * s.length + 2) 0 s).map fun r => (.pair path r.1, r.2)

/-- A line that does nothing: it is blank, or it is a comment. -/
def isIdle : List Char → Bool
  | [] => true
  | '#' :: _ => true
  | s => (lineEnd? s).isSome

/-- Reads lines into a document; `header` is the path of the current table. -/
def readLines (fuel : Nat) (header : List String) (slots : Slots) (s : List Char) :
    Option Slots :=
  match fuel with
  | 0 => none
  | fuel + 1 =>
    let s := skipSpace s
    match (if isIdle s then some (.idle, s) else readLine s) with
    | none => none
    | some (line, s) =>
      let changed : Option (List String × Slots) :=
        match line with
        | .idle => some (header, slots)
        | .header ofArray path => (openHeader ofArray path .named slots).map (path, ·)
        | .pair path node =>
          (descend false (assign path node) header .named slots).map (header, ·)
      match changed with
      | none => none
      | some (header, slots) =>
        match skipToEnd s with
        | [] => some slots
        | s =>
          match lineEnd? s with
          | some s => readLines fuel header slots s
          | none => none

/-! ## Documents -/

/-- A mark that may precede the text. -/
def dropMark : List Char → List Char
  | '\ufeff' :: s => s
  | s => s

/-- The tree of a TOML text, if it is one. -/
def readDocument (text : String) : Option Node :=
  let s := dropMark text.toList
  (readLines (s.length + 1) [] [] s).map fun slots => .table (slotEntries slots)

/-- The value of a TOML text. -/
def decode {α : Type} (decoder : Decoder α) (text : String) : Except Trouble α :=
  match readDocument text with
  | none => .error (.fault .malformed)
  | some node => decoder ⟨.toml, text.length⟩ node

end RoutingSessions.Toml
