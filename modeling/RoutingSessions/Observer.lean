/-
  RoutingSessions.Observer — from what discovery announces to what is needed.

  Of each announcement only the admitted partitions count: those that no filter
  ignores, each once, in the order of the announcement.  An endpoint that a filter
  ignores as a whole changes nothing.  A discovery joins the admitted partitions, a
  loss leaves them.  A modification is compared with the sessions that the endpoint
  has joined according to the index, whatever its topic was then: it leaves those
  that it does not announce any more, and joins the new ones.

  Main statements:
    * `mem_admitted` — which partitions are admitted.
    * `admitted_nodup` — each of them once.
-/
import RoutingSessions.Filter
import RoutingSessions.Journal
import RoutingSessions.Roster
import RoutingSessions.Trace

namespace RoutingSessions

/-- An observer of one domain. -/
structure Observer where
  filters : List Filter
  /-- The participants that live filters ignore. -/
  watched : WatchList
  roster : Roster

namespace Observer

/-- An observer that has seen nothing. -/
def new (filters : List Filter) : Observer := ⟨filters, .empty, .empty⟩

/-! ## Admission -/

/-- A filter ignores the endpoint as a whole. -/
def ignores (o : Observer) (e : Endpoint) : Bool :=
  (Filter.chain o.filters).ignoresEndpoint o.watched e

/-- A filter ignores the partition of the topic. -/
def ignoresPartition (o : Observer) (topic partition : String) : Bool :=
  (Filter.chain o.filters).ignoresPartition topic partition

/-- The partitions of the endpoint that count. -/
def admitted (o : Observer) (e : Endpoint) : List String :=
  (e.effectivePartitions.filter fun p => !o.ignoresPartition e.topic p).eraseDups

/-- What is noted on the endpoint's admission. -/
def admissionNotes (o : Observer) (e : Endpoint) : List Note :=
  if o.ignores e then [.endpointIgnored e.topic e.handle]
  else
    (e.effectivePartitions.filter (o.ignoresPartition e.topic ·)).map
      (.partitionIgnored e.topic ·)

theorem mem_admitted {o : Observer} {e : Endpoint} {p : String} :
    p ∈ o.admitted e ↔ p ∈ e.effectivePartitions ∧ o.ignoresPartition e.topic p = false := by
  simp [admitted, List.mem_eraseDups]

theorem nodup_eraseDups {α : Type} [DecidableEq α] (l : List α) : l.eraseDups.Nodup := by
  generalize hn : l.length = n
  induction n using Nat.strongRecOn generalizing l with
  | ind n ih =>
    cases l with
    | nil => simp
    | cons a l =>
      have hlt : (l.filter fun b => !b == a).length < n := by
        rw [← hn, List.length_cons]
        exact Nat.lt_succ_of_le (List.length_filter_le _ _)
      rw [List.eraseDups_cons]
      refine List.nodup_cons.2 ⟨fun h => ?_, ih _ hlt _ rfl⟩
      simpa using List.mem_eraseDups.1 h

theorem admitted_nodup (o : Observer) (e : Endpoint) : (o.admitted e).Nodup := nodup_eraseDups _

/-! ## Announcements -/

/-- The endpoint joins its sessions in the listed partitions. -/
def discover (e : Endpoint) (partitions : List String) (r : Roster) : Roster × List Change :=
  Roster.forEach (fun s => Roster.join e.handle s e.route) (partitions.map e.session) r

/-- The endpoint leaves its sessions in the listed partitions. -/
def lose (e : Endpoint) (partitions : List String) (r : Roster) : Roster × List Change :=
  Roster.forEach (fun s => Roster.leave e.handle s e.route) (partitions.map e.session) r

/-- The endpoint leaves the sessions that it had joined and that are not in the listed
partitions, and joins the others in these. -/
def modify (e : Endpoint) (partitions : List String) (r : Roster) : Roster × List Change :=
  let current := r.sessionsOf e.handle
  let wanted := partitions.map e.session
  let left := Roster.forEach (fun s => Roster.leave e.handle s e.route)
    (current.filter fun s => decide (s ∉ wanted)) r
  let joined := Roster.forEach (fun s => Roster.join e.handle s e.route)
    (wanted.filter fun s => decide (s ∉ current)) left.1
  (joined.1, left.2 ++ joined.2)

/-- What an announcement does to the roster. -/
def reconcile (occurrence : Occurrence) (e : Endpoint) (partitions : List String) (r : Roster) :
    Roster × List Change :=
  match occurrence with
  | .discovered => discover e partitions r
  | .modified => modify e partitions r
  | .lost => lose e partitions r

/-- Takes in an announcement, and reports what is needed from now on or no longer. -/
def notice (n : Notification) (o : Observer) : Observer × List Change :=
  if o.ignores n.endpoint then (o, [])
  else
    let done := reconcile n.occurrence n.endpoint (o.admitted n.endpoint) o.roster
    ({ o with roster := done.1 }, done.2)

/-! ## Live filters -/

/-- Puts a participant on the watch list. -/
def watch (p : ParticipantId) (o : Observer) : Observer :=
  { o with watched := o.watched.insert p }

/-- Takes a participant off the watch list, and says whether it was there. -/
def unwatch (p : ParticipantId) (o : Observer) : Observer × Bool :=
  ({ o with watched := o.watched.erase p }, decide (p ∈ o.watched))

end Observer

end RoutingSessions
