/-
  RoutingSessions.Filter — what discovery announces and the router leaves alone.

  A filter gives two verdicts: on an endpoint as a whole, by its topic or its
  participant, and on one partition of a topic.  A chain gives the verdict of any of
  its filters.  One filter is live: it ignores the participants that are on a watch
  list at the moment of the question, and the list is an argument of both verdicts.

  Besides the filters that can be configured there may be others.  Of an endpoint they
  are told who it is and which way its data goes; its partitions they are asked about
  one at a time.

  Main statements:
    * `ignoresEndpoint_chain`, `ignoresPartition_chain` — a chain ignores what one
      of its filters ignores.
-/
import RoutingSessions.Endpoint
import RoutingSessions.OrderedSet
import RoutingSessions.Selection

namespace RoutingSessions

/-! ## Filters -/

/-- A rule for what to ignore. -/
inductive Filter where
  /-- Topics reserved for the middleware and for vendor infrastructure. -/
  | builtinTopics
  /-- Endpoints of the listed participants. -/
  | participants (ids : List ParticipantId)
  /-- Endpoints of the participants on the watch list. -/
  | watchList
  /-- Endpoints of topics that are not selected. -/
  | topics (selector : Selector)
  /-- Partitions that a pattern covers and, if asked, those that are patterns themselves. -/
  | partitions (globs : List Glob) (ignoreWildcards : Bool)
  /-- Nothing. -/
  | nothing
  /-- A filter of another kind, given by its verdicts. -/
  | custom (endpoint : Handle → Route → Bool) (partition : (topic partition : String) → Bool)
  /-- Whatever one of the filters ignores. -/
  | chain (filters : List Filter)

/-- The participants that live filters ignore at the moment. -/
abbrev WatchList := OrderedSet ParticipantId

/-! ## Names -/

/-- The beginnings of names that are reserved for infrastructure. -/
def builtinBeginnings : List String := ["DCPS", "rti/", "ros_discovery_info"]

/-- A topic name reserved for infrastructure. -/
def isBuiltinTopic (topic : String) : Bool :=
  builtinBeginnings.any fun b => b.toList.isPrefixOf topic.toList

/-- A partition name that holds a wildcard, and so names no single partition. -/
def isWildcardPartition (partition : String) : Bool :=
  partition.toList.any fun c => c = '*' || c = '?' || c = '['

/-! ## Verdicts -/

namespace Filter

mutual

/-- The filter ignores the endpoint as a whole. -/
def ignoresEndpoint (watched : WatchList) (e : Endpoint) : Filter → Bool
  | .builtinTopics => isBuiltinTopic e.topic
  | .participants ids => decide (e.handle.participant ∈ ids)
  | .watchList => decide (e.handle.participant ∈ watched)
  | .topics selector => !selector.selects e.topic
  | .partitions _ _ => false
  | .nothing => false
  | .custom endpoint _ => endpoint e.handle e.route
  | .chain filters => anyIgnoresEndpoint watched e filters

/-- One of the filters ignores the endpoint. -/
def anyIgnoresEndpoint (watched : WatchList) (e : Endpoint) : List Filter → Bool
  | [] => false
  | f :: fs => ignoresEndpoint watched e f || anyIgnoresEndpoint watched e fs

end

mutual

/-- The filter ignores the partition of the topic. -/
def ignoresPartition (topic partition : String) : Filter → Bool
  | .partitions globs ignoreWildcards =>
    (ignoreWildcards && isWildcardPartition partition) || globs.any (·.matchesText partition)
  | .chain filters => anyIgnoresPartition topic partition filters
  | .builtinTopics => false
  | .participants _ => false
  | .watchList => false
  | .topics _ => false
  | .nothing => false
  | .custom _ verdict => verdict topic partition

/-- One of the filters ignores the partition. -/
def anyIgnoresPartition (topic partition : String) : List Filter → Bool
  | [] => false
  | f :: fs => ignoresPartition topic partition f || anyIgnoresPartition topic partition fs

end

theorem anyIgnoresEndpoint_eq (watched : WatchList) (e : Endpoint) (fs : List Filter) :
    anyIgnoresEndpoint watched e fs = fs.any (ignoresEndpoint watched e) := by
  induction fs with
  | nil => simp [anyIgnoresEndpoint]
  | cons f fs ih => simp [anyIgnoresEndpoint, ih]

theorem anyIgnoresPartition_eq (topic partition : String) (fs : List Filter) :
    anyIgnoresPartition topic partition fs = fs.any (ignoresPartition topic partition) := by
  induction fs with
  | nil => simp [anyIgnoresPartition]
  | cons f fs ih => simp [anyIgnoresPartition, ih]

theorem ignoresEndpoint_chain (watched : WatchList) (e : Endpoint) (fs : List Filter) :
    ignoresEndpoint watched e (.chain fs) = fs.any (ignoresEndpoint watched e) := by
  rw [ignoresEndpoint, anyIgnoresEndpoint_eq]

theorem ignoresPartition_chain (topic partition : String) (fs : List Filter) :
    ignoresPartition topic partition (.chain fs) = fs.any (ignoresPartition topic partition) := by
  rw [ignoresPartition, anyIgnoresPartition_eq]

end Filter

/-! ## Construction -/

/-- Why a filter cannot be built. -/
inductive FilterError where
  | pattern (error : Glob.Refused)
  | participant (error : HandleError)
deriving DecidableEq

/-- The wording of a filter error. -/
def FilterError.message : FilterError → String
  | .pattern e => e.message
  | .participant e => s!"invalid participant prefix: {e.message}"

namespace Filter

/-- The participants that the texts write, or the error of the first that writes none. -/
def readParticipants : List String → Except FilterError (List ParticipantId)
  | [] => .ok []
  | p :: ps =>
    match Octets.read 12 p.toList with
    | .error e => .error (.participant e)
    | .ok id =>
      match readParticipants ps with
      | .error e => .error e
      | .ok ids => .ok (id :: ids)

/-- The filter for the participants that the texts write. -/
def ofParticipants (texts : List String) : Except FilterError Filter :=
  (readParticipants texts).map .participants

/-- The filter for topics outside the selection. -/
def ofSelection (m : Expression.Matcher) (selection : Selection) : Except FilterError Filter :=
  ((selection.compile m).mapError .pattern).map .topics

/-- The filter for partitions that the patterns cover. -/
def ofPartitions (m : Expression.Matcher) (patterns : List String) (ignoreWildcards : Bool) :
    Except FilterError Filter :=
  ((Glob.compileAll m patterns).mapError .pattern).map
    fun globs => .partitions globs ignoreWildcards

end Filter

end RoutingSessions
