/-
  RoutingSessions.Proofs.Observer.Difference — what a notification reports, and in
  which order.

  An announcement is carried out session by session, and each of them finds the
  roster as the ones before it left it.  The report is still no more than the
  difference between what is live before and what is live after: nothing comes and
  goes on the way.

  Every announcement is some sessions left and then some joined, so deletions come
  first.  A session comes right before its first route and goes right after its last
  one.  What is created stands in the order of the announcement, what a modification
  deletes in the order of the sessions.

  Main statements:
    * `apply_eq_leave_join` — an announcement as sessions left and sessions joined.
    * `filter_changes` — one resource in the report of an announcement.
    * `paired_forEach`, `pairwise_forEach` — neighbours and order in a report.
    * `changes_eq_difference` — all of it, for any notification.
-/
import RoutingSessions.Proofs.Observer.Changelog

namespace RoutingSessions

/-! ## §1. Sessions next to their routes. -/

/-- A session is created right before a route of it, and deleted right after one. -/
structure Change.Paired (route : Route) (cs : List Change) : Prop where
  created : ∀ i s, cs[i]? = some (.createSession s) → cs[i + 1]? = some (.createRoute s route)
  deleted : ∀ i s, cs[i]? = some (.deleteSession s) →
    ∃ j, i = j + 1 ∧ cs[j]? = some (.deleteRoute s route)

namespace Change.Paired

variable {route : Route} {cs ds : List Change} {s : Session}

theorem nil : Paired route [] := by
  constructor <;> simp

theorem createRoute : Paired route [.createRoute s route] := by
  constructor
  · intro i t h
    cases i <;> simp [Change.createRoute, Change.createSession, Resource.ofRoute,
      Resource.ofSession] at h
  · intro i t h
    cases i <;> simp [Change.createRoute, Change.deleteSession] at h

theorem createBoth : Paired route [.createSession s, .createRoute s route] := by
  constructor
  · intro i t h
    rcases i with _ | _ | i
    · obtain rfl : s = t := by simpa [Change.createSession, Resource.ofSession] using h
      rfl
    · simp [Change.createRoute, Change.createSession, Resource.ofRoute, Resource.ofSession] at h
    · simp at h
  · intro i t h
    rcases i with _ | _ | i
    · simp [Change.createSession, Change.deleteSession] at h
    · simp [Change.createRoute, Change.deleteSession] at h
    · simp at h

theorem deleteRoute : Paired route [.deleteRoute s route] := by
  constructor
  · intro i t h
    cases i <;> simp [Change.deleteRoute, Change.createSession] at h
  · intro i t h
    cases i <;> simp [Change.deleteRoute, Change.deleteSession, Resource.ofRoute,
      Resource.ofSession] at h

theorem deleteBoth : Paired route [.deleteRoute s route, .deleteSession s] := by
  constructor
  · intro i t h
    rcases i with _ | _ | i
    · simp [Change.deleteRoute, Change.createSession] at h
    · simp [Change.deleteSession, Change.createSession] at h
    · simp at h
  · intro i t h
    rcases i with _ | _ | i
    · simp [Change.deleteRoute, Change.deleteSession, Resource.ofRoute, Resource.ofSession] at h
    · obtain rfl : s = t := by simpa [Change.deleteSession, Resource.ofSession] using h
      exact ⟨0, rfl, rfl⟩
    · simp at h

theorem append (hcs : Paired route cs) (hds : Paired route ds) : Paired route (cs ++ ds) := by
  constructor
  · intro i t h
    by_cases hi : i < cs.length
    · -- the route that follows in `cs` follows in the whole list
      rw [List.getElem?_append_left hi] at h
      have hnext := hcs.created i t h
      obtain ⟨hlt, _⟩ := List.getElem?_eq_some_iff.1 hnext
      rw [List.getElem?_append_left hlt]
      exact hnext
    · rw [List.getElem?_append_right (by omega)] at h ⊢
      have hnext := hds.created _ t h
      rw [show i + 1 - cs.length = i - cs.length + 1 by omega]
      exact hnext
  · intro i t h
    by_cases hi : i < cs.length
    · rw [List.getElem?_append_left hi] at h
      obtain ⟨j, rfl, hj⟩ := hcs.deleted i t h
      refine ⟨j, rfl, ?_⟩
      rw [List.getElem?_append_left (by omega)]
      exact hj
    · rw [List.getElem?_append_right (by omega)] at h
      obtain ⟨j, hij, hj⟩ := hds.deleted _ t h
      refine ⟨cs.length + j, by omega, ?_⟩
      rw [List.getElem?_append_right (by omega), Nat.add_sub_cancel_left]
      exact hj

end Change.Paired

/-! ## §2. The report of several operations. -/

namespace Roster

open Change

theorem paired_join (h : Handle) (s : Session) (route : Route) (r : Roster) :
    Paired route (r.join h s route).2 := by
  show Paired route ((if r.hasSession s then [] else _) ++ if r.hasRoute s route then [] else _)
  by_cases hs : r.hasSession s = true
  · by_cases hr : r.hasRoute s route = true
    · simpa [hs, hr] using Paired.nil
    · simpa [hs, hr] using Paired.createRoute
  · -- without its session the route is not there either
    have hr : ¬r.hasRoute s route = true := fun hr => hs (hasSession_of_hasRoute hr)
    simpa [hs, hr] using Paired.createBoth

theorem paired_leave (h : Handle) (s : Session) (route : Route) (r : Roster) :
    Paired route (r.leave h s route).2 := by
  unfold leave
  by_cases hseat : (⟨s, route, h⟩ : Seat) ∈ r.seats
  · rw [if_pos hseat]
    generalize (⟨r.seats.erase ⟨s, route, h⟩, r.index.erase ⟨h, s⟩⟩ : Roster) = left
    show Paired route
      ((if left.hasRoute s route then [] else _) ++ if left.hasSession s then [] else _)
    by_cases hr : left.hasRoute s route = true
    · have hs : left.hasSession s = true := hasSession_of_hasRoute hr
      simpa [hs, hr] using Paired.nil
    · by_cases hs : left.hasSession s = true
      · simpa [hs, hr] using Paired.deleteRoute
      · simpa [hs, hr] using Paired.deleteBoth
  · rw [if_neg hseat]
    exact .nil

theorem paired_forEach {act : Session → Roster → Roster × List Change} {route : Route}
    (hact : ∀ s r, Paired route (act s r).2) (ss : List Session) (r : Roster) :
    Paired route (forEach act ss r).2 := by
  induction ss generalizing r with
  | nil => exact .nil
  | cons s ss ih =>
    show Paired route ((act s r).2 ++ (forEach act ss (act s r).1).2)
    exact (hact s r).append (ih _)

/-- If sessions are taken up in some order, the changes are reported in it. -/
theorem pairwise_forEach {act : Session → Roster → Roster × List Change}
    {before : Session → Session → Prop} (hrefl : ∀ s, before s s)
    (hact : ∀ s r, ∀ c ∈ (act s r).2, c.resource.session = s)
    {ss : List Session} (hss : ss.Pairwise before) (r : Roster) :
    (forEach act ss r).2.Pairwise fun c d => before c.resource.session d.resource.session := by
  induction ss generalizing r with
  | nil => exact .nil
  | cons s ss ih =>
    obtain ⟨hfirst, hrest⟩ := List.pairwise_cons.1 hss
    show ((act s r).2 ++ (forEach act ss (act s r).1).2).Pairwise _
    refine List.pairwise_append.2 ⟨?_, ih hrest _, fun c hc d hd => ?_⟩
    · refine List.pairwise_of_forall_mem_list fun c hc d hd => ?_
      rw [hact s r c hc, hact s r d hd]
      exact hrefl s
    · obtain ⟨t, ht, r', hd⟩ := exists_of_mem_forEach hd
      rw [hact s r c hc, hact t r' d hd]
      exact hfirst t ht

theorem session_of_mem_join {h : Handle} {s : Session} {route : Route} {r : Roster} {c : Change}
    (hc : c ∈ (r.join h s route).2) : c.resource.session = s := by
  rcases eq_of_mem_join hc with rfl | rfl <;> rfl

theorem session_of_mem_leave {h : Handle} {s : Session} {route : Route} {r : Roster} {c : Change}
    (hc : c ∈ (r.leave h s route).2) : c.resource.session = s := by
  rcases eq_of_mem_leave hc with rfl | rfl <;> rfl

end Roster

/-! ## §3. The report of an announcement. -/

/-- A report that is a difference is empty exactly if nothing differs. -/
theorem Change.eq_nil_iff_of_filter {cs : List Change} {before after : Resource → Bool}
    (h : ∀ k, cs.filter (·.resource = k) = between (before k) (after k) k) :
    cs = [] ↔ ∀ k, after k = before k := by
  constructor
  · rintro rfl k
    have hk : [] = between (before k) (after k) k := h k
    cases hb : before k <;> cases ha : after k <;> simp [between, hb, ha] at hk ⊢
  · intro hsame
    refine List.eq_nil_iff_forall_not_mem.2 fun c hc => ?_
    have hmem : c ∈ cs.filter (·.resource = c.resource) := List.mem_filter.2 ⟨hc, by simp⟩
    rw [h, hsame] at hmem
    cases hb : before c.resource <;> simp [between, hb] at hmem

namespace Announcement

open Roster Change

/-- The announced sessions, in order. -/
def wanted (a : Announcement) : List Session := a.partitions.map a.endpoint.session

/-- The sessions that the endpoint is to leave. -/
def leaves (a : Announcement) (r : Roster) : List Session :=
  match a.occurrence with
  | .discovered => []
  | .modified => (r.sessionsOf a.handle).filter fun s => decide (s ∉ a.wanted)
  | .lost => a.wanted

/-- The sessions that the endpoint is to join. -/
def joins (a : Announcement) (r : Roster) : List Session :=
  match a.occurrence with
  | .discovered => a.wanted
  | .modified => a.wanted.filter fun s => decide (s ∉ r.sessionsOf a.handle)
  | .lost => []

/-- **Every announcement is some sessions left and then some joined.** -/
theorem apply_eq_leave_join (a : Announcement) (r : Roster) :
    let left := forEach (leave a.handle · a.route) (a.leaves r) r
    let joined := forEach (join a.handle · a.route) (a.joins r) left.1
    a.apply r = (joined.1, left.2 ++ joined.2) := by
  obtain ⟨occurrence, e, ps⟩ := a
  cases occurrence with
  | discovered => rfl
  | modified => rfl
  | lost =>
    show Observer.lose e ps r = (_, _ ++ [])
    rw [List.append_nil]
    rfl

/-- Of each resource the report holds what leads from before to after. -/
theorem filter_changes (a : Announcement) (r : Roster) (k : Resource) :
    (a.apply r).2.filter (·.resource = k)
      = between (r.needs k) ((a.apply r).1.needs k) k := by
  rw [Catalog.filter_eq_of_replay (a.replay_apply r) (a.nodup_changes r) k]
  simp only [mem_live, Bool.decide_eq_true]

theorem joins_sublist (a : Announcement) (r : Roster) : (a.joins r).Sublist a.wanted := by
  unfold joins
  cases a.occurrence with
  | discovered => exact List.Sublist.refl _
  | modified => exact List.filter_sublist
  | lost => exact List.nil_sublist _

/-- The place of a session's partition in the announcement. -/
def place (a : Announcement) (s : Session) : Nat := a.partitions.idxOf s.partition

/-- Announced sessions stand in the order of their places. -/
theorem pairwise_wanted {a : Announcement} (hnodup : a.partitions.Nodup) :
    a.wanted.Pairwise fun s t => a.place s ≤ a.place t := by
  unfold wanted
  rw [List.pairwise_map, List.pairwise_iff_getElem]
  intro i j hi hj hlt
  show a.partitions.idxOf a.partitions[i] ≤ a.partitions.idxOf a.partitions[j]
  rw [hnodup.idxOf_getElem, hnodup.idxOf_getElem]
  exact hlt.le

/-- **The shape of a report**: deletions and then creations, each session next to a route of it,
creations of announced sessions in the order of the announcement, and the deletions of a
modification in the order of the sessions. -/
theorem changes_shape {a : Announcement} (hnodup : a.partitions.Nodup) (r : Roster) :
    Paired a.route (a.apply r).2
      ∧ ∃ deleted created, (a.apply r).2 = deleted ++ created
        ∧ (∀ c ∈ deleted, c.action = .delete)
        ∧ (∀ c ∈ created, c.action = .create ∧ c.resource.session ∈ a.wanted)
        ∧ created.Pairwise (fun c d => a.place c.resource.session ≤ a.place d.resource.session)
        ∧ (a.occurrence = .modified →
          deleted.Pairwise fun c d => (compare c.resource.session d.resource.session).isLE) := by
  have hchanges := congrArg Prod.snd (a.apply_eq_leave_join r)
  refine ⟨?_, _, _, hchanges, fun c hc => (mem_changes_leave hc).1,
    fun c hc => ⟨(mem_changes_join hc).1, (a.joins_sublist r).mem (mem_changes_join hc).2⟩, ?_, ?_⟩
  · rw [hchanges]
    exact (paired_forEach (paired_leave a.handle · a.route) _ _).append
      (paired_forEach (paired_join a.handle · a.route) _ _)
  · exact pairwise_forEach (fun s => Nat.le_refl (a.place s)) (fun _ _ _ => session_of_mem_join)
      ((pairwise_wanted hnodup).sublist (a.joins_sublist r)) _
  · intro hmodified
    have hleaves : a.leaves r = (r.sessionsOf a.handle).filter fun s => decide (s ∉ a.wanted) := by
      unfold leaves
      rw [hmodified]
    have hascending : (a.leaves r).Pairwise fun s t => (compare s t).isLE := by
      rw [hleaves]
      refine ((r.sessionsOf_ascending a.handle).imp fun {s t} hlt => ?_).filter _
      rw [hlt]
      rfl
    have hrefl : ∀ s : Session, (compare s s).isLE := fun s => by
      rw [Std.ReflOrd.compare_self]
      rfl
    exact pairwise_forEach hrefl (fun _ _ _ => session_of_mem_leave) hascending _

end Announcement

/-! ## §4. The report of a notification. -/

namespace Observer

open Roster Change

/-- **A notification reports exactly the difference, in order.**  Whatever state the observer is
in: of each resource the report holds its creation if it is live after the notification and not
before, its deletion if it is live before and not after, and nothing otherwise; so the report is
empty exactly if the same resources are live.  Deletions come before creations.  The creation of a
session is followed at once by that of the route in it, and its deletion preceded at once by that
of the route in it.  What is created belongs to the partitions that count, in the order in which
they are announced, and a modification deletes in the order of topics and partitions. -/
theorem changes_eq_difference (o : Observer) (n : Notification) :
    let done := o.notice n
    let place := fun c : Change => (o.admitted n.endpoint).idxOf c.resource.session.partition
    (∀ k, done.2.filter (·.resource = k)
        = between (o.roster.needs k) (done.1.roster.needs k) k)
      ∧ (done.2 = [] ↔ ∀ k, done.1.roster.needs k = o.roster.needs k)
      ∧ Paired n.endpoint.route done.2
      ∧ ∃ deleted created, done.2 = deleted ++ created
        ∧ (∀ c ∈ deleted, c.action = .delete)
        ∧ (∀ c ∈ created, c.action = .create
          ∧ c.resource.session ∈ (o.admitted n.endpoint).map n.endpoint.session)
        ∧ created.Pairwise (fun c d => place c ≤ place d)
        ∧ (n.occurrence = .modified →
          deleted.Pairwise fun c d => (compare c.resource.session d.resource.session).isLE) := by
  intro done place
  by_cases hign : o.ignores n.endpoint = true
  · -- an ignored endpoint changes nothing and reports nothing
    have hdone : done = (o, []) := if_pos hign
    rw [hdone]
    refine ⟨fun k => ?_, ?_, .nil, [], [], rfl, ?_, ?_, .nil, fun _ => .nil⟩
    · cases o.roster.needs k <;> rfl
    · simp
    · simp
    · simp
  · let a : Announcement := ⟨n.occurrence, n.endpoint, o.admitted n.endpoint⟩
    have hdone : done = ({ o with roster := (a.apply o.roster).1 }, (a.apply o.roster).2) :=
      if_neg hign
    have hdifference := a.filter_changes o.roster
    rw [hdone]
    exact ⟨hdifference, eq_nil_iff_of_filter hdifference,
      Announcement.changes_shape (a := a) (o.admitted_nodup n.endpoint) o.roster⟩

end Observer

end RoutingSessions
