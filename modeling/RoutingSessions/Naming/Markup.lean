/-
  RoutingSessions.Naming.Markup — values inside XML payloads.

  The five characters that markup gives a meaning are written as predefined
  entities, and every other character as itself.

  Main statement:
    * `escapeChars_append` — escaping goes character by character.
-/

namespace RoutingSessions.Markup

/-- A character as it is written inside a payload. -/
def escapeChar (c : Char) : List Char :=
  match c with
  | '&' => "&amp;".toList
  | '<' => "&lt;".toList
  | '>' => "&gt;".toList
  | '"' => "&quot;".toList
  | '\'' => "&apos;".toList
  | c => [c]

/-- A text as it is written inside a payload. -/
def escapeChars (s : List Char) : List Char := s.flatMap escapeChar

/-- A text as it is written inside a payload. -/
def escape (s : String) : String := String.ofList (escapeChars s.toList)

theorem escapeChars_append (s t : List Char) :
    escapeChars (s ++ t) = escapeChars s ++ escapeChars t := List.flatMap_append

end RoutingSessions.Markup
