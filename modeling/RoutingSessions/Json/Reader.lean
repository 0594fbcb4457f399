/-
  RoutingSessions.Json.Reader — JSON text as a tree.

  The grammar is read from left to right.  Where it fails, the tree ends with the
  fault: a missing value, a missing colon, a list or table that does not close.
-/
import RoutingSessions.Document.Decode
import RoutingSessions.Json.Number
import RoutingSessions.Json.Text

namespace RoutingSessions.Json

open RoutingSessions.Document

/-! ## Tokens -/

/-- White space between tokens. -/
def isSpace (c : Char) : Bool := c = ' ' || c = '\n' || c = '\t' || c = '\r'

/-- The text behind white space. -/
def skipSpace (s : List Char) : List Char := s.dropWhile isSpace

/-- What is left of a text after a value: nothing is read on after a fault. -/
abbrev Rest := Option (List Char)

/-- A value that ends in a fault. -/
def fail (f : Fault) : Node × Rest := (.fault f, none)

/-- The word `letters`, whose first letter was read before. -/
def readWord (value : Plain) (letters s : List Char) : Node × Rest :=
  match letters, s with
  | [], s => (.ofPlain value, some s)
  | _ :: _, [] => (.plain (.error .cutShort) (some .cutShort), none)
  | l :: letters, c :: s =>
    if c = l then readWord value letters s
    else (.plain (.error .malformed) (some .malformed), none)

/-- The text after a token, or the fault of passing over it. -/
def restOf (skipped : Except Fault (List Char)) : Option Fault × Rest :=
  match skipped with
  | .ok s => (none, some s)
  | .error f => (some f, none)

/-- The text behind an opening quote. -/
def readTextNode (s : List Char) : Node × Rest :=
  let (fault, rest) := restOf (skipText s)
  (.text ((readText s).map fun r => String.ofList r.1) fault, rest)

/-- The number behind an optional sign. -/
def readNumberNode (negative : Bool) (s : List Char) : Node × Rest :=
  let (fault, rest) := restOf (skipNumber s)
  (.plain ((readNumber negative s).map (·.1)) fault, rest)

/-! ## Values -/

/-- The fault of a text at which something else was expected. -/
def unexpected (s : List Char) : Fault := if s.isEmpty then .cutShort else .malformed

mutual

/-- The value at the beginning of the text. -/
def readNode (fuel : Nat) (s : List Char) : Node × Rest :=
  match fuel with
  | 0 => fail .cutShort
  | fuel + 1 =>
    match skipSpace s with
    | [] => fail .cutShort
    | '"' :: s => readTextNode s
    | '-' :: s => readNumberNode true s
    | 'n' :: s => readWord .null ['u', 'l', 'l'] s
    | 't' :: s => readWord (.boolean true) ['r', 'u', 'e'] s
    | 'f' :: s => readWord (.boolean false) ['a', 'l', 's', 'e'] s
    | '[' :: s =>
      let (items, rest) := readItems fuel true s
      (.list .bracketed items, rest)
    | '{' :: s =>
      let (entries, rest) := readEntries fuel true s
      (.table entries, rest)
    | c :: s => if c.isDigit then readNumberNode false (c :: s) else fail .malformed

/-- The items of a list from the text on; `first` says that none was read yet. -/
def readItems (fuel : Nat) (first : Bool) (s : List Char) : Items × Rest :=
  match fuel with
  | 0 => (.stop (some .cutShort), none)
  | fuel + 1 =>
    match first, skipSpace s with
    | _, ']' :: s => (.stop none, some s)
    | true, [] => (.stop (some .cutShort), none)
    | true, s => readItem fuel s
    | false, ',' :: s => readItem fuel s
    | false, s => (.stop (some (unexpected s)), none)

/-- An item of a list, and the items behind it. -/
def readItem (fuel : Nat) (s : List Char) : Items × Rest :=
  match fuel with
  | 0 => (.stop (some .cutShort), none)
  | fuel + 1 =>
    match readNode fuel s with
    | (node, none) => (.item node (.stop none), none)
    | (node, some s) =>
      let (items, rest) := readItems fuel false s
      (.item node items, rest)

/-- The entries of a table from the text on; `first` says that none was read yet. -/
def readEntries (fuel : Nat) (first : Bool) (s : List Char) : Entries × Rest :=
  match fuel with
  | 0 => (.stop (some .cutShort), none)
  | fuel + 1 =>
    match first, skipSpace s with
    | _, '}' :: s => (.stop none, some s)
    | true, [] => (.stop (some .cutShort), none)
    | true, s => readEntry fuel s
    | false, ',' :: s => readEntry fuel s
    | false, s => (.stop (some (unexpected s)), none)

/-- An entry of a table, and the entries behind it. -/
def readEntry (fuel : Nat) (s : List Char) : Entries × Rest :=
  match fuel with
  | 0 => (.stop (some .cutShort), none)
  | fuel + 1 =>
    match skipSpace s with
    | [] => (.entry (.error .cutShort) (.fault .cutShort) (.stop none), none)
    | '"' :: s =>
      let key := (readText s).map fun r => String.ofList r.1
      match skipText s with
      | .error f => (.entry key (.fault f) (.stop none), none)
      | .ok s =>
        match skipSpace s with
        | ':' :: s =>
          match readNode fuel s with
          | (node, none) => (.entry key node (.stop none), none)
          | (node, some s) =>
            let (entries, rest) := readEntries fuel false s
            (.entry key node entries, rest)
        | s => (.entry key (.fault (unexpected s)) (.stop none), none)
    | _ => (.stop (some .malformed), none)

end

/-! ## Documents -/

/-- The fault of text after a document. -/
def trailingFault : Rest → Option Fault
  | none => none
  | some s => if (skipSpace s).isEmpty then none else some .malformed

/-- The tree of a JSON text, and the fault of what follows it.  Each character opens at most
three calls. -/
def readDocument (s : List Char) : Node × Option Fault :=
  let (node, rest) := readNode (3 * s.length + 3) s
  (node, trailingFault rest)

/-- How deep lists and tables may be nested in values that are taken in as a whole. -/
def nestingLimit : Nat := 127

/-- The value of a JSON text. -/
def decode {α : Type} (decoder : Decoder α) (text : String) : Except Trouble α := do
  let (node, trailing) := readDocument text.toList
  let value ← decoder ⟨.json, nestingLimit⟩ node
  refuse trailing
  return value

/-- The value of JSON that was read before, and so is known to have no fault. -/
def decodeValue {α : Type} (decoder : Decoder α) (node : Node) : Except Trouble α :=
  decoder ⟨.jsonValue, nestingLimit⟩ node

end RoutingSessions.Json
