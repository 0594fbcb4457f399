/-
  RoutingSessions.Toml.Writer — values as TOML text.

  A table is written as its simple entries, and then each table inside it under a
  header of its own, with an empty line before the header.  A string with quotes or
  backslashes is written as a literal one where that is possible; lists of more than
  one item take a line for each.
-/
import RoutingSessions.Document.Node
import RoutingSessions.Text.Quoted

namespace RoutingSessions.Toml

open RoutingSessions.Document

/-! ## Strings -/

/-- A control character, which no literal string holds. -/
def isControl (c : Char) : Bool := c.toNat < 0x20 || c.toNat = 0x7F

/-- A character as it stands in a basic string. -/
def writeChar (c : Char) : List Char :=
  match c with
  | '\x08' => ['\\', 'b']
  | '\t' => ['\\', 't']
  | '\n' => ['\\', 'n']
  | '\x0c' => ['\\', 'f']
  | '\r' => ['\\', 'r']
  | '"' => ['\\', '"']
  | '\\' => ['\\', '\\']
  | c =>
    if isControl c then
      let digits := Nat.toDigits 16 c.toNat
      ['\\', 'u'] ++ List.replicate (4 - digits.length) '0' ++ digits.map Char.toUpper
    else [c]

/-- A string between quotes. -/
def writeText (s : String) : List Char :=
  let cs := s.toList
  let needsEscape := cs.any fun c => c = '"' || c = '\\'
  let literal := cs.all fun c => c ≠ '\'' && !isControl c
  if needsEscape && literal then '\'' :: cs ++ ['\'']
  else '"' :: cs.flatMap writeChar ++ ['"']

/-- A list of strings. -/
def writeTexts (l : List String) : List Char :=
  match l with
  | [] => "[]".toList
  | [s] => '[' :: writeText s ++ [']']
  | l => "[\n".toList ++ l.flatMap (fun s => "    ".toList ++ writeText s ++ ",\n".toList) ++ [']']

/-! ## Tables -/

/-- A value that stands behind its key, on the same line. -/
def writeSimple : Value → Option (List Char)
  | .boolean b => some (if b then "true" else "false").toList
  | .integer i => some (toString i).toList
  | .text s => some (writeText s)
  | .texts l => some (writeTexts l)
  | .record _ => none

/-- The simple entries of a table, a line each. -/
def writeSimples : List (String × Value) → List Char
  | [] => []
  | (name, v) :: rest =>
    match writeSimple v with
    | some t => name.toList ++ " = ".toList ++ t ++ '\n' :: writeSimples rest
    | none => writeSimples rest

mutual

/-- The table at a path, with a header unless it is the document. -/
def writeTable (path : List String) : Value → List Char
  | .record fields =>
    let header :=
      if path.isEmpty then []
      else "\n[".toList ++ (".".intercalate path).toList ++ "]\n".toList
    header ++ writeSimples fields ++ writeTables path fields
  | _ => []

/-- The tables inside the table at a path. -/
def writeTables (path : List String) : List (String × Value) → List Char
  | [] => []
  | (name, v) :: rest => writeTable (path ++ [name]) v ++ writeTables path rest

end

/-- The TOML text of a record. -/
def write (v : Value) : String := String.ofList (writeTable [] v)

end RoutingSessions.Toml
