/-
  RoutingSessions.Proofs.Observer.Relocation — where a modification takes an endpoint.

  No list of an endpoint's partitions is kept from which a modification could be worked
  out.  It is compared with the index, and the index alone: afterwards the endpoint has
  joined the announced sessions, whatever it had joined before, and a session that it
  had joined and still announces is not touched.

  Seats follow as long as the endpoint keeps its route.  It then sits in the sessions
  that it has joined and nowhere else, and the modification is the same as leaving all
  of them and being discovered anew, except that nothing is reported that does not last.

  Main statements:
    * `mem_seats_iff_mem_index` — the seats of an endpoint that has kept its route.
    * `modify_eq_discover_lose` — a modification as leaving and coming back.
    * `modification_exact` — where a modification takes an endpoint, for whole runs.
-/
import RoutingSessions.Proofs.Observer.Bookkeeping
import RoutingSessions.Proofs.Observer.Difference
import RoutingSessions.Proofs.Observer.Interleaving
import RoutingSessions.Proofs.Observer.Portrait

namespace RoutingSessions

/-! ## §1. Endpoints that keep their route. -/

/-- An endpoint all of whose announcements had one route sits at that route, in the sessions that
it has joined and nowhere else. -/
theorem Announcement.mem_seats_iff_mem_index {as : List Announcement} {a : Announcement}
    (hroutes : ∀ b ∈ as, b.handle = a.handle → b.route = a.route) {s : Session} {route : Route} :
    (⟨s, route, a.handle⟩ : Seat) ∈ (applyAll as .empty).1.seats
      ↔ route = a.route ∧ (⟨a.handle, s⟩ : Attribution) ∈ (applyAll as .empty).1.index := by
  -- the endpoint is where its own announcements put it, and these can be portrayed
  let own := as.filter (·.handle = a.handle)
  have hagree : Roster.AgreeOn a.handle (applyAll as .empty).1 (applyAll own .empty).1 :=
    agreeOn_applyAll as (.refl _ _)
  have hown : ∀ b ∈ own ++ [a], b.route = a.route := by
    intro b hb
    rcases List.mem_append.1 hb with hb | hb
    · obtain ⟨hmem, hhandle⟩ := List.mem_filter.1 hb
      exact hroutes b hmem (of_decide_eq_true hhandle)
    · rw [List.mem_singleton.1 hb]
  have hkeep : KeepsRoutes (own ++ [a]) := fun b hb c hc _ => (hown b hb).trans (hown c hc).symm
  have hportrays : Portrays own (applyAll own .empty).1 :=
    portrays_applyAll portrays_empty hkeep.of_append
  rw [hagree.seats _ rfl, hagree.index _ rfl, hportrays.mem_seats_iff hkeep,
    hportrays.mem_index_iff hkeep]

namespace Observer

open Roster

/-! ## §2. Leaving and coming back. -/

/-- The partitions in which the endpoint has joined a session. -/
def joinedPartitions (e : Endpoint) (r : Roster) : List String :=
  (r.sessionsOf e.handle).map (·.partition)

variable {e : Endpoint} {ps : List String} {r : Roster}

theorem map_session_joinedPartitions
    (htopics : ∀ s ∈ r.sessionsOf e.handle, s.topic = e.topic) :
    (joinedPartitions e r).map e.session = r.sessionsOf e.handle := by
  unfold joinedPartitions
  rw [List.map_map]
  calc (r.sessionsOf e.handle).map (e.session ∘ (·.partition))
      = (r.sessionsOf e.handle).map id := by
        refine List.map_congr_left fun s hs => ?_
        show (⟨e.topic, s.partition⟩ : Session) = s
        rw [← htopics s hs]
    _ = r.sessionsOf e.handle := List.map_id _

/-- **A modification is leaving and coming back**, for an endpoint that sits at the announced route
in the sessions that it has joined and nowhere else. -/
theorem modify_eq_discover_lose
    (htopics : ∀ s ∈ r.sessionsOf e.handle, s.topic = e.topic)
    (hseats : ∀ s route, (⟨s, route, e.handle⟩ : Seat) ∈ r.seats
      ↔ route = e.route ∧ (⟨e.handle, s⟩ : Attribution) ∈ r.index) :
    (modify e ps r).1 = (discover e ps (lose e (joinedPartitions e r) r).1).1 := by
  refine eq_of_agreeOn fun h => ⟨fun seat _ => ?_, fun x _ => ?_⟩
  · rw [mem_seats_modify, mem_seats_discover, mem_seats_lose,
      map_session_joinedPartitions htopics, mem_sessionsOf]
    obtain ⟨s, route, h'⟩ := seat
    by_cases hh : h' = e.handle
    · subst hh
      rw [hseats]
      tauto
    · simp [hh]
  · rw [mem_index_modify, mem_index_discover, mem_index_lose,
      map_session_joinedPartitions htopics, mem_sessionsOf]
    obtain ⟨h', s⟩ := x
    by_cases hh : h' = e.handle
    · -- nothing is left of the endpoint in the index before it comes back
      subst hh
      tauto
    · simp [hh]

/-- The seats of such an endpoint after a modification. -/
theorem mem_seats_modify_of_mem_index
    (hseats : ∀ s route, (⟨s, route, e.handle⟩ : Seat) ∈ r.seats
      ↔ route = e.route ∧ (⟨e.handle, s⟩ : Attribution) ∈ r.index)
    {s : Session} {route : Route} :
    (⟨s, route, e.handle⟩ : Seat) ∈ (modify e ps r).1.seats
      ↔ route = e.route ∧ s ∈ ps.map e.session := by
  rw [mem_seats_modify, hseats]
  tauto

theorem mem_sessionsOf_modify {s : Session} :
    s ∈ (modify e ps r).1.sessionsOf e.handle ↔ s ∈ ps.map e.session := by
  rw [mem_sessionsOf, mem_index_modify]
  simp

/-- What is reported is about sessions that the endpoint leaves or joins, and never about one
that it stays in. -/
theorem not_mem_of_mem_modify {c : Change} (hc : c ∈ (modify e ps r).2) :
    ¬(c.resource.session ∈ r.sessionsOf e.handle ∧ c.resource.session ∈ ps.map e.session) := by
  rintro ⟨hbefore, hafter⟩
  rcases List.mem_append.1 hc with hc | hc
  · exact of_decide_eq_true (List.mem_filter.1 (mem_changes_leave hc).2).2 hafter
  · exact of_decide_eq_true (List.mem_filter.1 (mem_changes_join hc).2).2 hbefore

/-! ## §3. Whole runs. -/

/-- **A modification takes an endpoint to exactly the announced sessions.**  After any run, and for
any modification that is not ignored as a whole: the endpoint has joined the sessions of the
announced partitions that count and no other; every other endpoint has the seats and sessions that
it had; and nothing is reported of a session that the endpoint had joined before and has joined
after.  If all that was announced of the endpoint so far had the same direction, topic and type, it
sits in exactly these sessions, at that route and no other, and the roster is the one that it
would be if the endpoint had been lost from all its sessions and then been discovered. -/
theorem modification_exact (filters : List Filter) (steps : List Step) (e : Endpoint)
    (hheard : (runAll steps (new filters)).1.ignores e = false) :
    let o := (runAll steps (new filters)).1
    let wanted := (o.admitted e).map e.session
    let done := o.notice ⟨.modified, e⟩
    (∀ s, s ∈ done.1.roster.sessionsOf e.handle ↔ s ∈ wanted)
      ∧ (∀ h, h ≠ e.handle → AgreeOn h done.1.roster o.roster)
      ∧ (∀ c ∈ done.2, ¬(c.resource.session ∈ o.roster.sessionsOf e.handle
          ∧ c.resource.session ∈ done.1.roster.sessionsOf e.handle))
      ∧ ((∀ a ∈ announcements steps (new filters), a.handle = e.handle → a.route = e.route) →
        (∀ s route, (⟨s, route, e.handle⟩ : Seat) ∈ done.1.roster.seats
            ↔ route = e.route ∧ s ∈ wanted)
          ∧ done.1.roster = (discover e (o.admitted e)
              (lose e (joinedPartitions e o.roster) o.roster).1).1) := by
  intro o wanted done
  have hdone : done = ({ o with roster := (modify e (o.admitted e) o.roster).1 },
      (modify e (o.admitted e) o.roster).2) := if_neg (Bool.eq_false_iff.1 hheard)
  rw [hdone]
  refine ⟨fun s => mem_sessionsOf_modify, fun h hh => ?_, fun c hc => ?_, fun hroutes => ?_⟩
  · exact Announcement.agreeOn_apply_of_ne (a := ⟨.modified, e, o.admitted e⟩) (Ne.symm hh) o.roster
  · rw [mem_sessionsOf_modify]
    exact not_mem_of_mem_modify hc
  · have hseats : ∀ s route, (⟨s, route, e.handle⟩ : Seat) ∈ o.roster.seats
        ↔ route = e.route ∧ (⟨e.handle, s⟩ : Attribution) ∈ o.roster.index := by
      intro s route
      rw [show o.roster = _ from roster_runAll steps (new filters)]
      exact Announcement.mem_seats_iff_mem_index (a := ⟨.modified, e, []⟩) hroutes
    have htopics : ∀ s ∈ o.roster.sessionsOf e.handle, s.topic = e.topic := by
      intro s hs
      have hseat := (hseats s e.route).2 ⟨rfl, mem_sessionsOf.1 hs⟩
      exact ((coherent_runAll filters steps).topics _ hseat).symm
    exact ⟨fun s route => mem_seats_modify_of_mem_index hseats,
      modify_eq_discover_lose htopics hseats⟩

/-- A publisher in two partitions moves on to one of them and a third, and names a pattern and a
partition twice in doing so; a second publisher shares the partition that it stays in. -/
theorem modification_exact_overlapping :
    let first : Endpoint := ⟨.replicate 16 1, .outgoing, "Square", "Shape", ["A", "B"]⟩
    let second : Endpoint := ⟨.replicate 16 2, .outgoing, "Square", "Shape", ["B"]⟩
    let steps : List Step := [.notice ⟨.discovered, first⟩, .notice ⟨.discovered, second⟩]
    let e := { first with partitions := ["C", "*", "B", "C"] }
    let filters := [.partitions [] true]
    let o := (runAll steps (new filters)).1
    let done := o.notice ⟨.modified, e⟩
    o.ignores e = false
      ∧ (∀ a ∈ announcements steps (new filters), a.handle = e.handle → a.route = e.route)
      ∧ (⟨"Square", "C"⟩ : Session) ∈ done.1.roster.sessionsOf e.handle
      ∧ done.1.roster.snapshot
        = [⟨⟨"Square", "B"⟩, [(e.route, 2)]⟩, ⟨⟨"Square", "C"⟩, [(e.route, 1)]⟩]
      ∧ done.1.roster = (discover e (o.admitted e)
          (lose e (joinedPartitions e o.roster) o.roster).1).1
      ∧ done.2.length = 4 := by
  intro first second steps e filters o done
  have hheard : o.ignores e = false := by decide +kernel
  have hroutes : ∀ a ∈ announcements steps (new filters),
      a.handle = e.handle → a.route = e.route := by decide +kernel
  obtain ⟨hjoined, _, _, hkept⟩ := modification_exact filters steps e hheard
  have hroster := (hkept hroutes).2
  exact ⟨hheard, hroutes, (hjoined _).2 (by decide +kernel), by decide +kernel, hroster,
    by decide +kernel⟩

end Observer

end RoutingSessions
