/-
  RoutingSessions.Naming.Template — texts with placeholders.

  A placeholder is a brace, one or more letters or underscores, and a closing brace.
  All other text is literal, unmatched and empty braces included.  Expansion goes
  through a template once: a value that looks like a placeholder is not expanded.
-/

namespace RoutingSessions.Template

/-! ## Segments -/

/-- A part of a template. -/
inductive Segment where
  | literal (c : Char)
  | placeholder (name : String)
deriving DecidableEq

/-- A character of a placeholder's name. -/
def isNameChar (c : Char) : Bool :=
  ('a' ≤ c && c ≤ 'z') || ('A' ≤ c && c ≤ 'Z') || c == '_'

/-- The segments of a template.  After a brace that may open a placeholder, `pending` holds
the name read so far, reversed. -/
def scan : Option (List Char) → List Char → List Segment
  | none, [] => []
  | some name, [] => .literal '{' :: name.reverse.map .literal
  | none, c :: cs => if c = '{' then scan (some []) cs else .literal c :: scan none cs
  | some name, c :: cs =>
    if isNameChar c then scan (some (c :: name)) cs
    else if c = '}' && !name.isEmpty then
      .placeholder (String.ofList name.reverse) :: scan none cs
    else
      .literal '{' :: name.reverse.map .literal
        ++ if c = '{' then scan (some []) cs else .literal c :: scan none cs

/-- The segments of a template text. -/
def segments (template : String) : List Segment := scan none template.toList

/-! ## Expansion -/

/-- The value of the first variable of that name. -/
def valueOf? (name : String) : List (String × String) → Option String
  | [] => none
  | (n, v) :: vars => if n = name then some v else valueOf? name vars

/-- The segments with each placeholder replaced, or the first placeholder without a value. -/
def expandSegments (vars : List (String × String)) : List Segment → Except String (List Char)
  | [] => .ok []
  | .literal c :: rest => (expandSegments vars rest).map (c :: ·)
  | .placeholder name :: rest =>
    match valueOf? name vars with
    | none => .error name
    | some v => (expandSegments vars rest).map (v.toList ++ ·)

/-- The template with each placeholder replaced, or the first placeholder without a value. -/
def expand (template : String) (vars : List (String × String)) : Except String String :=
  (expandSegments vars (segments template)).map String.ofList

end RoutingSessions.Template
