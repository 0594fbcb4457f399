/-
  RoutingSessions.Json.Writer — values as JSON text, without space between tokens.
-/
import RoutingSessions.Json.Text

namespace RoutingSessions.Json

open RoutingSessions.Document

/-- The texts with commas between them. -/
def writeTexts : List String → List Char
  | [] => []
  | [s] => writeText s
  | s :: rest => writeText s ++ ',' :: writeTexts rest

mutual

/-- A value as JSON text. -/
def writeValue : Value → List Char
  | .boolean b => (if b then "true" else "false").toList
  | .integer i => (toString i).toList
  | .text s => writeText s
  | .texts l => '[' :: writeTexts l ++ [']']
  | .record fields => '{' :: writeFields fields ++ ['}']

/-- The fields of a record with commas between them. -/
def writeFields : List (String × Value) → List Char
  | [] => []
  | [(name, v)] => writeText name ++ ':' :: writeValue v
  | (name, v) :: rest => writeText name ++ ':' :: writeValue v ++ ',' :: writeFields rest

end

/-- The JSON text of a value. -/
def write (v : Value) : String := String.ofList (writeValue v)

end RoutingSessions.Json
