/-
  RoutingSessions.Glob — patterns over names.

  In a pattern `*` stands for any run of characters, `?` for any one character, and every
  other character for itself.  Neither wildcard stands for a line feed, and a pattern has
  to cover the whole text.

  A pattern is compiled by a matcher for regular expressions, from the expression that it
  is translated to.  A matcher may refuse one; what it says then goes with the pattern.
-/
import RoutingSessions.Expression

namespace RoutingSessions

/-- A pattern that is compiled. -/
structure Glob where
  /-- The pattern covers the whole text. -/
  matchesText : String → Bool

namespace Glob

/-- A pattern that the matcher refuses. -/
structure Refused where
  pattern : String
  /-- What the matcher says. -/
  complaint : String
deriving DecidableEq

/-- The wording for a pattern that is refused. -/
def Refused.message (e : Refused) : String := s!"invalid pattern '{e.pattern}': {e.complaint}"

/-- The pattern that a text writes, unless it is refused. -/
def compile (m : Expression.Matcher) (pattern : String) : Except Refused Glob :=
  match m.compilePattern pattern with
  | some found => .ok ⟨found⟩
  | none => .error ⟨pattern, m.complaint (m.translate pattern)⟩

/-- The patterns that the texts write, or the first text that is refused. -/
def compileAll (m : Expression.Matcher) : List String → Except Refused (List Glob)
  | [] => .ok []
  | p :: ps =>
    match compile m p with
    | .error e => .error e
    | .ok g =>
      match compileAll m ps with
      | .error e => .error e
      | .ok gs => .ok (g :: gs)

end Glob

end RoutingSessions
