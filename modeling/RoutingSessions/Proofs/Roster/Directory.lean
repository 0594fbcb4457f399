/-
  RoutingSessions.Proofs.Roster.Directory — the roster as nested maps.

  A directory keeps, for each session that is there, the routes that are there and,
  for each of these, who has a seat; and for each endpoint that is there the sessions
  that it has joined.  What is there is decided by the keys alone, so a key whose value
  has become empty has to go, on every level.

  Joining and leaving a directory report the same changes as joining and leaving a
  roster, and keep the two in step; and no key is ever left without a value.

  Main statements:
    * `valueAt_insert`, `valueAt_put`, `Filled.ext` — one level of the maps.
    * `Lists.join`, `Lists.leave` — one operation keeps directory and roster in step.
    * `Tidy.join`, `Tidy.leave` — and leaves no key without a value.
    * `changes_join`, `changes_leave` — with the same report.
-/
import Mathlib.Data.Finmap
import RoutingSessions.Proofs.Roster.Views

namespace RoutingSessions

instance {α : Type} [Ord α] : EmptyCollection (OrderedSet α) := ⟨.empty⟩

instance {α : Type} [Ord α] [DecidableEq α] : DecidableEq (OrderedSet α) := fun s t =>
  decidable_of_iff (s.toList = t.toList) ⟨fun h => by cases s; cases t; cases h; rfl, congrArg _⟩

theorem OrderedSet.ne_empty_iff {α : Type} [Ord α] [Std.TransOrd α] {s : OrderedSet α} :
    s ≠ ∅ ↔ ∃ a, a ∈ s := by
  constructor
  · intro hne
    by_contra hnone
    refine hne (OrderedSet.ext fun a => ?_)
    exact ⟨fun ha => absurd ⟨a, ha⟩ hnone, fun ha => absurd ha (OrderedSet.not_mem_empty a)⟩
  · rintro ⟨a, ha⟩ rfl
    exact OrderedSet.not_mem_empty a ha

namespace Directory

/-! ## §1. Maps without empty values. -/

section Maps

variable {α β : Type} [DecidableEq α] [EmptyCollection β]

/-- What stands at `k`; nothing if the key is not there. -/
def valueAt (k : α) (m : Finmap fun _ : α => β) : β := (m.lookup k).getD ∅

/-- Puts the value at `k`, and takes the key away if that leaves nothing there. -/
def put [DecidableEq β] (k : α) (v : β) (m : Finmap fun _ : α => β) : Finmap fun _ : α => β :=
  if v = ∅ then m.erase k else m.insert k v

/-- At every key that is there something stands. -/
def Filled (m : Finmap fun _ : α => β) : Prop := ∀ k v, m.lookup k = some v → v ≠ ∅

variable {m : Finmap fun _ : α => β} {k j : α} {v : β}

@[simp] theorem valueAt_empty : valueAt k (∅ : Finmap fun _ : α => β) = ∅ := by
  unfold valueAt
  rw [Finmap.lookup_empty]
  rfl

theorem valueAt_insert : valueAt j (m.insert k v) = if j = k then v else valueAt j m := by
  unfold valueAt
  by_cases h : j = k
  · subst h
    rw [Finmap.lookup_insert, if_pos rfl]
    rfl
  · rw [Finmap.lookup_insert_of_ne _ h, if_neg h]

theorem valueAt_put [DecidableEq β] : valueAt j (put k v m) = if j = k then v else valueAt j m := by
  unfold put
  by_cases hv : v = ∅
  · rw [if_pos hv]
    unfold valueAt
    by_cases h : j = k
    · -- the key is taken away, and what stood there is the empty value
      subst h
      rw [Finmap.lookup_erase, if_pos rfl, hv]
      rfl
    · rw [Finmap.lookup_erase_ne h, if_neg h]
  · rw [if_neg hv]
    exact valueAt_insert

theorem filled_empty : Filled (∅ : Finmap fun _ : α => β) := by
  intro k v h
  rw [Finmap.lookup_empty] at h
  cases h

theorem Filled.insert (hm : Filled m) (hv : v ≠ ∅) : Filled (m.insert k v) := by
  intro j w h
  by_cases hj : j = k
  · subst hj
    rw [Finmap.lookup_insert] at h
    cases h
    exact hv
  · rw [Finmap.lookup_insert_of_ne _ hj] at h
    exact hm j w h

theorem Filled.put [DecidableEq β] (hm : Filled m) : Filled (put k v m) := by
  unfold Directory.put
  by_cases hv : v = ∅
  · rw [if_pos hv]
    intro j w h
    by_cases hj : j = k
    · subst hj
      rw [Finmap.lookup_erase] at h
      cases h
    · rw [Finmap.lookup_erase_ne hj] at h
      exact hm j w h
  · rw [if_neg hv]
    exact hm.insert hv

/-- Where every key has a value, a key is there exactly if something stands at it. -/
theorem Filled.mem_iff (hm : Filled m) : k ∈ m ↔ valueAt k m ≠ ∅ := by
  unfold valueAt
  rw [Finmap.mem_iff]
  constructor
  · rintro ⟨v, h⟩
    rw [h]
    exact hm k v h
  · intro h
    cases hk : m.lookup k with
    | none =>
      rw [hk] at h
      exact absurd rfl h
    | some v => exact ⟨v, rfl⟩

theorem Filled.ne_empty_iff (hm : Filled m) : m ≠ ∅ ↔ ∃ k, valueAt k m ≠ ∅ := by
  constructor
  · intro hne
    by_contra hnone
    refine hne (Finmap.ext_lookup fun k => ?_)
    rw [Finmap.lookup_empty, Finmap.lookup_eq_none, hm.mem_iff]
    exact fun h => hnone ⟨k, h⟩
  · rintro ⟨k, h⟩ rfl
    exact h valueAt_empty

theorem valueAt_of_lookup (h : m.lookup k = some v) : valueAt k m = v := by
  unfold valueAt
  rw [h]
  rfl

/-- Maps without empty values are equal if the same stands at every key. -/
theorem Filled.ext {m' : Finmap fun _ : α => β} (hm : Filled m) (hm' : Filled m')
    (hsame : ∀ k, valueAt k m = valueAt k m') : m = m' := by
  refine Finmap.ext_lookup fun k => ?_
  cases hk : m.lookup k with
  | none =>
    -- nothing stands there in either, and a key that is there has a value
    have hempty : valueAt k m = ∅ := by
      unfold valueAt
      rw [hk]
      rfl
    have hout : k ∉ m' := fun hin => hm'.mem_iff.1 hin ((hsame k).symm.trans hempty)
    rw [Finmap.lookup_eq_none.2 hout]
  | some v =>
    have hvalue : valueAt k m = v := valueAt_of_lookup hk
    have hin : k ∈ m' := hm'.mem_iff.2 fun hempty => hm k v hk (by rw [← hvalue, hsame k, hempty])
    obtain ⟨v', hk'⟩ := Finmap.mem_iff.1 hin
    have hvalue' : valueAt k m' = v' := valueAt_of_lookup hk'
    rw [hk', ← hvalue, ← hvalue', hsame k]

end Maps

end Directory

/-! ## §2. Directories. -/

/-- Who has a seat at each route of a session. -/
abbrev Seating := Finmap fun _ : Route => OrderedSet Handle

/-- Who needs what, by session and route, and who has joined what. -/
structure Directory where
  sessions : Finmap fun _ : Session => Seating
  joined : Finmap fun _ : Handle => OrderedSet Session

namespace Directory

/-- The directory in which nobody is. -/
def empty : Directory := ⟨∅, ∅⟩

/-- The endpoint has a seat at the route of the session. -/
def Seats (d : Directory) (s : Session) (route : Route) (h : Handle) : Prop :=
  h ∈ valueAt route (valueAt s d.sessions)

/-- The endpoint has joined the session. -/
def Attributes (d : Directory) (h : Handle) (s : Session) : Prop := s ∈ valueAt h d.joined

/-- Gives the endpoint a seat, and reports the keys that are new. -/
def join (h : Handle) (s : Session) (route : Route) (d : Directory) : Directory × List Change :=
  let seating := valueAt s d.sessions
  (⟨d.sessions.insert s (seating.insert route ((valueAt route seating).insert h)),
      d.joined.insert h ((valueAt h d.joined).insert s)⟩,
    (if s ∈ d.sessions then [] else [.createSession s])
      ++ (if route ∈ seating then [] else [.createRoute s route]))

/-- Takes the session from those that the endpoint has joined, and the endpoint from its seat at
the route if it has one there; reports the keys that go because nothing stands at them any more. -/
def leave (h : Handle) (s : Session) (route : Route) (d : Directory) : Directory × List Change :=
  let joined := put h ((valueAt h d.joined).erase s) d.joined
  let seating := valueAt s d.sessions
  let seated := valueAt route seating
  if h ∈ seated then
    let seated := seated.erase h
    let seating := put route seated seating
    (⟨put s seating d.sessions, joined⟩,
      (if seated = ∅ then [.deleteRoute s route] else [])
        ++ (if seating = ∅ then [.deleteSession s] else []))
  else (⟨d.sessions, joined⟩, [])

/-- Applies an operation for each session, and reports all changes in order. -/
def forEach (act : Session → Directory → Directory × List Change) :
    List Session → Directory → Directory × List Change
  | [], d => (d, [])
  | s :: ss, d =>
    let first := act s d
    let rest := forEach act ss first.1
    (rest.1, first.2 ++ rest.2)

/-! ## §3. Directory and roster in step. -/

/-- No key of the directory is without a value. -/
structure Tidy (d : Directory) : Prop where
  sessions : Filled d.sessions
  routes : ∀ s, Filled (valueAt s d.sessions)
  joined : Filled d.joined

/-- The directory holds the seats and the index of the roster. -/
structure Lists (d : Directory) (r : Roster) : Prop where
  seats : ∀ s route h, d.Seats s route h ↔ (⟨s, route, h⟩ : Seat) ∈ r.seats
  index : ∀ h s, d.Attributes h s ↔ (⟨h, s⟩ : Attribution) ∈ r.index

theorem tidy_empty : Tidy empty where
  sessions := filled_empty
  routes s := by
    show Filled (valueAt s ∅)
    rw [valueAt_empty]
    exact filled_empty
  joined := filled_empty

theorem lists_empty : Lists empty .empty where
  seats s route h := by
    show h ∈ valueAt route (valueAt s ∅) ↔ _
    rw [valueAt_empty, valueAt_empty]
    exact Iff.intro (absurd · (OrderedSet.not_mem_empty _)) (absurd · (OrderedSet.not_mem_empty _))
  index h s := by
    show s ∈ valueAt h ∅ ↔ _
    rw [valueAt_empty]
    exact Iff.intro (absurd · (OrderedSet.not_mem_empty _)) (absurd · (OrderedSet.not_mem_empty _))

variable {d : Directory} {r : Roster} {h : Handle} {s : Session} {route : Route}

/-- A route is a key of its session exactly if it is live. -/
theorem Lists.hasRoute_iff (hd : Lists d r) (s : Session) (route : Route) :
    r.hasRoute s route = true ↔ valueAt route (valueAt s d.sessions) ≠ ∅ := by
  rw [Roster.hasRoute_iff, OrderedSet.ne_empty_iff]
  exact exists_congr fun h => (hd.seats s route h).symm

/-- A session is a key exactly if it is live. -/
theorem Lists.hasSession_iff (ht : Tidy d) (hd : Lists d r) (s : Session) :
    r.hasSession s = true ↔ valueAt s d.sessions ≠ ∅ := by
  rw [(ht.routes s).ne_empty_iff]
  constructor
  · intro hs
    obtain ⟨route, hroute⟩ := Roster.exists_hasRoute_of_hasSession hs
    exact ⟨route, (hd.hasRoute_iff s route).1 hroute⟩
  · rintro ⟨route, hroute⟩
    exact Roster.hasSession_of_hasRoute ((hd.hasRoute_iff s route).2 hroute)

/-- The keys are the live sessions. -/
theorem Lists.mem_sessions (ht : Tidy d) (hd : Lists d r) {s : Session} :
    s ∈ d.sessions ↔ r.hasSession s = true :=
  ht.sessions.mem_iff.trans (hd.hasSession_iff ht s).symm

/-- The keys of a session are its live routes. -/
theorem Lists.mem_routes (ht : Tidy d) (hd : Lists d r) {s : Session} {route : Route} :
    route ∈ valueAt s d.sessions ↔ r.hasRoute s route = true :=
  (ht.routes s).mem_iff.trans (hd.hasRoute_iff s route).symm

/-! ### Joining -/

theorem Tidy.join (ht : Tidy d) : Tidy (d.join h s route).1 := by
  have hseated : (valueAt route (valueAt s d.sessions)).insert h ≠ ∅ :=
    OrderedSet.ne_empty_iff.2 ⟨h, OrderedSet.mem_insert.2 (.inl rfl)⟩
  have hseating : Filled ((valueAt s d.sessions).insert route
      ((valueAt route (valueAt s d.sessions)).insert h)) := (ht.routes s).insert hseated
  refine ⟨ht.sessions.insert ?_, fun s' => ?_, ht.joined.insert ?_⟩
  · refine hseating.ne_empty_iff.2 ⟨route, ?_⟩
    rw [valueAt_insert, if_pos rfl]
    exact hseated
  · show Filled (valueAt s' (d.sessions.insert s _))
    rw [valueAt_insert]
    split
    · exact hseating
    · exact ht.routes s'
  · exact OrderedSet.ne_empty_iff.2 ⟨s, OrderedSet.mem_insert.2 (.inl rfl)⟩

theorem Lists.join (hd : Lists d r) : Lists (d.join h s route).1 (r.join h s route).1 where
  seats s' route' h' := by
    rw [Roster.mem_seats_join, ← hd.seats, Seat.mk.injEq]
    show h' ∈ valueAt route' (valueAt s' (d.sessions.insert s _)) ↔ _ ∨ h' ∈ _
    rw [valueAt_insert]
    by_cases hs : s' = s
    · subst hs
      rw [if_pos rfl, valueAt_insert]
      by_cases hroute : route' = route
      · subst hroute
        simp
      · simp [hroute]
    · simp [hs]
  index h' s' := by
    rw [Roster.mem_index_join, ← hd.index, Attribution.mk.injEq]
    show s' ∈ valueAt h' (d.joined.insert h _) ↔ _ ∨ s' ∈ _
    rw [valueAt_insert]
    by_cases hh : h' = h
    · subst hh
      simp
    · simp [hh]

/-- Joining reports the same as joining the roster. -/
theorem changes_join (ht : Tidy d) (hd : Lists d r) :
    (d.join h s route).2 = (r.join h s route).2 := by
  show (if s ∈ d.sessions then [] else _) ++ (if route ∈ valueAt s d.sessions then [] else _)
    = (if r.hasSession s = true then [] else _) ++ (if r.hasRoute s route = true then [] else _)
  simp only [hd.mem_sessions ht, hd.mem_routes ht]

/-! ### Leaving -/

theorem leave_of_seats (hin : d.Seats s route h) :
    d.leave h s route
      = (⟨put s (put route ((valueAt route (valueAt s d.sessions)).erase h)
              (valueAt s d.sessions)) d.sessions,
            put h ((valueAt h d.joined).erase s) d.joined⟩,
          (if (valueAt route (valueAt s d.sessions)).erase h = ∅
              then [.deleteRoute s route] else [])
            ++ (if put route ((valueAt route (valueAt s d.sessions)).erase h)
                (valueAt s d.sessions) = ∅ then [.deleteSession s] else [])) := if_pos hin

theorem leave_of_not_seats (hout : ¬d.Seats s route h) :
    d.leave h s route = (⟨d.sessions, put h ((valueAt h d.joined).erase s) d.joined⟩, []) :=
  if_neg hout

theorem joined_leave :
    (d.leave h s route).1.joined = put h ((valueAt h d.joined).erase s) d.joined := by
  by_cases hin : d.Seats s route h
  · rw [leave_of_seats hin]
  · rw [leave_of_not_seats hin]

theorem Tidy.leave (ht : Tidy d) : Tidy (d.leave h s route).1 := by
  by_cases hin : d.Seats s route h
  · rw [leave_of_seats hin]
    refine ⟨ht.sessions.put, fun s' => ?_, ht.joined.put⟩
    show Filled (valueAt s' (put s _ d.sessions))
    rw [valueAt_put]
    split
    · exact (ht.routes s).put
    · exact ht.routes s'
  · rw [leave_of_not_seats hin]
    exact ⟨ht.sessions, ht.routes, ht.joined.put⟩

theorem Lists.leave (hd : Lists d r) : Lists (d.leave h s route).1 (r.leave h s route).1 where
  seats s' route' h' := by
    rw [Roster.mem_seats_leave, ← hd.seats, ne_eq, Seat.mk.injEq]
    by_cases hin : d.Seats s route h
    · rw [leave_of_seats hin]
      show h' ∈ valueAt route' (valueAt s' (put s _ d.sessions)) ↔ _ ∧ h' ∈ _
      rw [valueAt_put]
      by_cases hs : s' = s
      · subst hs
        rw [if_pos rfl, valueAt_put]
        by_cases hroute : route' = route
        · subst hroute
          simp
        · simp [hroute]
      · simp [hs]
    · -- the seat that would be left is not taken
      rw [leave_of_not_seats hin]
      constructor
      · intro hmem
        refine ⟨?_, hmem⟩
        rintro ⟨rfl, rfl, rfl⟩
        exact hin hmem
      · exact fun hmem => hmem.2
  index h' s' := by
    rw [Roster.mem_index_leave, ← hd.index, ne_eq, Attribution.mk.injEq]
    show s' ∈ valueAt h' (d.leave h s route).1.joined ↔ _ ∧ s' ∈ _
    rw [joined_leave, valueAt_put]
    by_cases hh : h' = h
    · subst hh
      simp
    · simp [hh]

/-- Leaving reports the same as leaving the roster. -/
theorem changes_leave (ht : Tidy d) (hd : Lists d r) :
    (d.leave h s route).2 = (r.leave h s route).2 := by
  by_cases hin : d.Seats s route h
  · have hseat : (⟨s, route, h⟩ : Seat) ∈ r.seats := (hd.seats s route h).1 hin
    have ht' : Tidy (d.leave h s route).1 := ht.leave
    have hd' : Lists (d.leave h s route).1 (r.leave h s route).1 := hd.leave
    have hleft : (r.leave h s route).2
        = (if (r.leave h s route).1.hasRoute s route then [] else [.deleteRoute s route])
          ++ (if (r.leave h s route).1.hasSession s then [] else [.deleteSession s]) := by
      unfold Roster.leave
      rw [if_pos hseat]
    -- what is live after leaving decides which keys are left
    have hroute := hd'.hasRoute_iff s route
    have hs := hd'.hasSession_iff ht' s
    rw [leave_of_seats hin] at hroute hs ⊢
    rw [valueAt_put, if_pos rfl] at hs
    rw [valueAt_put, if_pos rfl, valueAt_put, if_pos rfl] at hroute
    simp only [hleft, hroute, hs, ne_eq, ite_not]
  · have hseat : (⟨s, route, h⟩ : Seat) ∉ r.seats := mt (hd.seats s route h).2 hin
    rw [leave_of_not_seats hin]
    unfold Roster.leave
    rw [if_neg hseat]

end Directory

end RoutingSessions
