/-
  RoutingSessions.Proofs.Observer.Reconcile — what one announcement does to seats
  and index.

  One lemma for each announcement and each of the two sets.  The seats of other
  endpoints, and those at other routes of the same endpoint, are never touched; a
  modification leaves exactly the announced sessions on the index of its endpoint,
  whatever stood there before.

  Main statements:
    * `mem_seats_discover`, `mem_seats_lose`, `mem_seats_modify`.
    * `mem_index_discover`, `mem_index_lose`, `mem_index_modify`.
    * `mem_seats_reconcile_of_ne`, `mem_index_reconcile_of_ne` — other endpoints.
-/
import RoutingSessions.Observer
import RoutingSessions.Proofs.Roster.Views

namespace RoutingSessions

/-! ## §1. Several sessions at once. -/

namespace Roster

variable {h : Handle} {route : Route} {ss : List Session} {r : Roster}

theorem mem_seats_forEach_join {seat : Seat} :
    seat ∈ (forEach (fun s => join h s route) ss r).1.seats
      ↔ (seat.handle = h ∧ seat.route = route ∧ seat.session ∈ ss) ∨ seat ∈ r.seats := by
  induction ss generalizing r with
  | nil => simp [forEach]
  | cons s ss ih =>
    -- the first session joins before the others do
    show seat ∈ (forEach (fun s => join h s route) ss (join h s route r).1).1.seats ↔ _
    rw [ih, mem_seats_join]
    obtain ⟨s', route', h'⟩ := seat
    simp only [Seat.mk.injEq, List.mem_cons]
    tauto

theorem mem_index_forEach_join {a : Attribution} :
    a ∈ (forEach (fun s => join h s route) ss r).1.index
      ↔ (a.handle = h ∧ a.session ∈ ss) ∨ a ∈ r.index := by
  induction ss generalizing r with
  | nil => simp [forEach]
  | cons s ss ih =>
    show a ∈ (forEach (fun s => join h s route) ss (join h s route r).1).1.index ↔ _
    rw [ih, mem_index_join]
    obtain ⟨h', s'⟩ := a
    simp only [Attribution.mk.injEq, List.mem_cons]
    tauto

theorem mem_seats_forEach_leave {seat : Seat} :
    seat ∈ (forEach (fun s => leave h s route) ss r).1.seats
      ↔ ¬(seat.handle = h ∧ seat.route = route ∧ seat.session ∈ ss) ∧ seat ∈ r.seats := by
  induction ss generalizing r with
  | nil => simp [forEach]
  | cons s ss ih =>
    -- the first session is left before the others are
    show seat ∈ (forEach (fun s => leave h s route) ss (leave h s route r).1).1.seats ↔ _
    rw [ih, mem_seats_leave]
    obtain ⟨s', route', h'⟩ := seat
    simp only [ne_eq, Seat.mk.injEq, List.mem_cons]
    tauto

theorem mem_index_forEach_leave {a : Attribution} :
    a ∈ (forEach (fun s => leave h s route) ss r).1.index
      ↔ ¬(a.handle = h ∧ a.session ∈ ss) ∧ a ∈ r.index := by
  induction ss generalizing r with
  | nil => simp [forEach]
  | cons s ss ih =>
    show a ∈ (forEach (fun s => leave h s route) ss (leave h s route r).1).1.index ↔ _
    rw [ih, mem_index_leave]
    obtain ⟨h', s'⟩ := a
    simp only [ne_eq, Attribution.mk.injEq, List.mem_cons]
    tauto

end Roster

/-! ## §2. Announcements. -/

namespace Observer

open Roster

variable {e : Endpoint} {ps : List String} {r : Roster} {seat : Seat} {a : Attribution}

theorem mem_seats_discover :
    seat ∈ (discover e ps r).1.seats
      ↔ (seat.handle = e.handle ∧ seat.route = e.route ∧ seat.session ∈ ps.map e.session)
        ∨ seat ∈ r.seats :=
  mem_seats_forEach_join

theorem mem_index_discover :
    a ∈ (discover e ps r).1.index
      ↔ (a.handle = e.handle ∧ a.session ∈ ps.map e.session) ∨ a ∈ r.index :=
  mem_index_forEach_join

theorem mem_seats_lose :
    seat ∈ (lose e ps r).1.seats
      ↔ ¬(seat.handle = e.handle ∧ seat.route = e.route ∧ seat.session ∈ ps.map e.session)
        ∧ seat ∈ r.seats :=
  mem_seats_forEach_leave

theorem mem_index_lose :
    a ∈ (lose e ps r).1.index
      ↔ ¬(a.handle = e.handle ∧ a.session ∈ ps.map e.session) ∧ a ∈ r.index :=
  mem_index_forEach_leave

/-- The endpoint's seats at the announced route follow the difference between the index and
the announced sessions; all other seats stay. -/
theorem mem_seats_modify :
    seat ∈ (modify e ps r).1.seats
      ↔ (seat.handle = e.handle ∧ seat.route = e.route ∧ seat.session ∈ ps.map e.session
          ∧ (⟨e.handle, seat.session⟩ : Attribution) ∉ r.index)
        ∨ (¬(seat.handle = e.handle ∧ seat.route = e.route
              ∧ (⟨e.handle, seat.session⟩ : Attribution) ∈ r.index
              ∧ seat.session ∉ ps.map e.session)
            ∧ seat ∈ r.seats) := by
  unfold modify
  -- the index is read once, before anything is left or joined
  rw [mem_seats_forEach_join, mem_seats_forEach_leave]
  simp only [List.mem_filter, decide_eq_true_eq, mem_sessionsOf]

/-- After a modification the endpoint's index holds exactly the announced sessions. -/
theorem mem_index_modify :
    a ∈ (modify e ps r).1.index
      ↔ (a.handle = e.handle ∧ a.session ∈ ps.map e.session)
        ∨ (a.handle ≠ e.handle ∧ a ∈ r.index) := by
  unfold modify
  rw [mem_index_forEach_join, mem_index_forEach_leave]
  simp only [List.mem_filter, decide_eq_true_eq, mem_sessionsOf]
  obtain ⟨h, s⟩ := a
  by_cases hh : h = e.handle
  · subst hh
    simp only [ne_eq, not_true_eq_false, false_and, or_false, true_and]
    -- a session leaves the index only if it is not announced, and joins it if it is
    by_cases hin : (⟨e.handle, s⟩ : Attribution) ∈ r.index <;>
      by_cases hw : s ∈ ps.map e.session <;> simp [hin, hw]
  · simp [hh]

/-! ## §3. Other endpoints. -/

/-- An announcement leaves the seats of other endpoints alone. -/
theorem mem_seats_reconcile_of_ne {occurrence : Occurrence} (hh : seat.handle ≠ e.handle) :
    seat ∈ (reconcile occurrence e ps r).1.seats ↔ seat ∈ r.seats := by
  cases occurrence with
  | discovered => exact mem_seats_discover.trans (by simp [hh])
  | modified => exact mem_seats_modify.trans (by simp [hh])
  | lost => exact mem_seats_lose.trans (by simp [hh])

/-- An announcement leaves the sessions of other endpoints on the index alone. -/
theorem mem_index_reconcile_of_ne {occurrence : Occurrence} (hh : a.handle ≠ e.handle) :
    a ∈ (reconcile occurrence e ps r).1.index ↔ a ∈ r.index := by
  cases occurrence with
  | discovered => exact mem_index_discover.trans (by simp [hh])
  | modified => exact mem_index_modify.trans (by simp [hh])
  | lost => exact mem_index_lose.trans (by simp [hh])

end Observer

end RoutingSessions
