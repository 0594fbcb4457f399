/-
  RoutingSessions.Selection — which topics are routed.

  A selection is written with patterns; `Selector` is the same choice with the
  patterns compiled.
-/
import RoutingSessions.Glob

namespace RoutingSessions

/-! ## The choice as it is configured -/

/-- Which topics are routed, by pattern. -/
inductive Selection where
  /-- Every topic. -/
  | all
  /-- The topics that one of the patterns covers. -/
  | only (patterns : List String)
  /-- The topics that none of the patterns covers. -/
  | allBut (patterns : List String)
  /-- The topics that the pattern covers. -/
  | pattern (pattern : String)
deriving DecidableEq, Inhabited

/-! ## The choice with compiled patterns -/

/-- Which topics are routed, by compiled pattern. -/
inductive Selector where
  | all
  | anyOf (globs : List Glob)
  | noneOf (globs : List Glob)

/-- The topic is one that the selector routes. -/
def Selector.selects (topic : String) : Selector → Bool
  | .all => true
  | .anyOf globs => globs.any (·.matchesText topic)
  | .noneOf globs => !globs.any (·.matchesText topic)

/-- The selection with its patterns compiled. -/
def Selection.compile (m : Expression.Matcher) : Selection → Except Glob.Refused Selector
  | .all => .ok .all
  | .only patterns => (Glob.compileAll m patterns).map .anyOf
  | .allBut patterns => (Glob.compileAll m patterns).map .noneOf
  | .pattern p => (Glob.compile m p).map fun g => .anyOf [g]

end RoutingSessions
