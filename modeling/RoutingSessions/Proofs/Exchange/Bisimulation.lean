/-
  RoutingSessions.Proofs.Exchange.Bisimulation — runs side by side.

  Two exchanges may differ in what they have noted, in a counter, or in what their
  scripts hold, and still do the same at the same time.  A bisimulation relates such
  exchanges: whatever happens to both of them, they stay related, and nothing that can
  be asked tells them apart.

  A drain is given as much fuel as there may be work to do, and two exchanges with
  different scripts may have different amounts of it.  What a drain does depends on
  its fuel only if there is not enough.

  Main statements:
    * `drainWith_of_work_le` — more fuel than enough makes no difference.
    * `Bisimulation.run`, `Bisimulation.runAll` — related exchanges stay related in
      every run, and give the same results.
-/
import Mathlib.Data.Nat.Init
import RoutingSessions.Proofs.Exchange.Moves

namespace RoutingSessions

namespace Exchange

/-! ## §1. Enough fuel. -/

/-- **More fuel than enough makes no difference** to a drain. -/
theorem drainWith_of_work_le {fuel : Nat} {x : Exchange} (hfuel : x.work ≤ fuel) :
    drainWith fuel x = x.drain := by
  -- one unit more is not used: with enough fuel the drain ends because nothing is left to do
  have hmore : ∀ n (y : Exchange), y.work ≤ n → drainWith (n + 1) y = drainWith n y := by
    intro n
    induction n with
    | zero =>
      intro y hy
      show drainWith 1 y = y
      exact drainWith_of_next? 1 (next?_drainWith hy)
    | succ n ih =>
      intro y hy
      cases hi : y.outbox.next? with
      | none => rw [drainWith_of_next? _ hi, drainWith_of_next? _ hi]
      | some i =>
        have hless := work_process_lt hi
        rw [drainWith_of_next?_eq_some _ hi, drainWith_of_next?_eq_some _ hi]
        exact ih _ (by omega)
  induction fuel, hfuel using Nat.le_induction with
  | base => rfl
  | succ fuel hfuel ih => rw [hmore fuel x hfuel, ih]

/-! ## §2. Bisimulations. -/

/-- A relation that nothing that happens to both exchanges can break, and that no answer
reveals. -/
structure Bisimulation (R : Exchange → Exchange → Prop) : Prop where
  intents : ∀ {x y}, R x y → x.outbox.intents = y.outbox.intents
  clock : ∀ {x y}, R x y → x.outbox.clock = y.outbox.clock
  isShutDown : ∀ {x y}, R x y → x.outbox.isShutDown = y.outbox.isShutDown
  ask : ∀ {x y}, R x y → ∀ c, (x.ask c).2 = (y.ask c).2 ∧ R (x.ask c).1 (y.ask c).1
  process : ∀ {x y}, R x y → ∀ {i}, x.outbox.next? = some i → R (x.process i) (y.process i)
  tick : ∀ {x y}, R x y → R
    { x with outbox := { x.outbox with clock := x.outbox.clock + 1 } }
    { y with outbox := { y.outbox with clock := y.outbox.clock + 1 } }
  script : ∀ {x y}, R x y → ∀ more, R
    { x with script := x.script ++ more }
    { y with script := y.script ++ more }

namespace Bisimulation

variable {R : Exchange → Exchange → Prop} (hR : Bisimulation R) {x y : Exchange} (h : R x y)
include hR h

theorem next? : x.outbox.next? = y.outbox.next? := by
  unfold Outbox.next?
  rw [hR.intents h, hR.clock h]

theorem pendingCount : x.outbox.pendingCount = y.outbox.pendingCount := by
  unfold Outbox.pendingCount
  rw [hR.intents h]

theorem askAll (cs : List Outbox.Command) :
    (x.askAll cs).2 = (y.askAll cs).2 ∧ R (x.askAll cs).1 (y.askAll cs).1 := by
  induction cs generalizing x y with
  | nil => exact ⟨rfl, h⟩
  | cons c cs ih =>
    obtain ⟨hanswer, hasked⟩ := hR.ask h c
    obtain ⟨hanswers, hrest⟩ := ih hasked
    refine ⟨?_, hrest⟩
    show (x.ask c).2 :: ((x.ask c).1.askAll cs).2 = (y.ask c).2 :: ((y.ask c).1.askAll cs).2
    rw [hanswer, hanswers]

theorem drainWith (fuel : Nat) : R (drainWith fuel x) (drainWith fuel y) := by
  induction fuel generalizing x y with
  | zero => exact h
  | succ fuel ih =>
    have hnext := hR.next? h
    cases hi : x.outbox.next? with
    | none =>
      rw [drainWith_of_next? _ hi, drainWith_of_next? _ (hnext.symm.trans hi)]
      exact h
    | some i =>
      rw [drainWith_of_next?_eq_some _ hi, drainWith_of_next?_eq_some _ (hnext.symm.trans hi)]
      exact ih (hR.process h hi)

/-- Related exchanges drain together, also if one of them has more work to do. -/
theorem drain : R x.drain y.drain := by
  -- with fuel for both, neither of them stops before the other
  rw [← drainWith_of_work_le (Nat.le_max_left x.work y.work),
    ← drainWith_of_work_le (Nat.le_max_right x.work y.work)]
  exact hR.drainWith h _

theorem tick_drain : R x.tick y.tick := hR.drain (hR.tick h)

theorem advance (ms : Nat) : R (x.advance ms) (y.advance ms) := by
  induction ms generalizing x y with
  | zero => exact h
  | succ ms ih => exact ih (hR.tick_drain h)

theorem settle (ms : Nat) :
    (settle ms x).2 = (settle ms y).2 ∧ R (settle ms x).1 (settle ms y).1 := by
  have hpending := hR.pendingCount h
  induction ms generalizing x y with
  | zero =>
    refine ⟨?_, h⟩
    show decide (x.outbox.pendingCount = 0) = decide (y.outbox.pendingCount = 0)
    rw [hpending]
  | succ ms ih =>
    unfold Exchange.settle
    rw [hpending]
    split
    next => exact ⟨rfl, h⟩
    next => exact ih (hR.tick_drain h) (hR.pendingCount (hR.tick_drain h))

/-- **Related exchanges stay related**, and a step has the same result in both of them. -/
theorem run (step : Step) : (x.run step).2 = (y.run step).2 ∧ R (x.run step).1 (y.run step).1 := by
  cases step with
  | ask c =>
    obtain ⟨hanswer, hasked⟩ := hR.ask h c
    exact ⟨congrArg Result.answer hanswer, hR.drain hasked⟩
  | batch cs =>
    obtain ⟨hanswers, hasked⟩ := hR.askAll h cs
    exact ⟨congrArg Result.answers hanswers, hR.drain hasked⟩
  | advance ms => exact ⟨rfl, hR.advance h ms⟩
  | settle ms =>
    obtain ⟨hsettled, hrest⟩ := hR.settle h ms
    exact ⟨congrArg Result.settled hsettled, hrest⟩
  | script more => exact ⟨rfl, hR.script h more⟩
  | closed =>
    refine ⟨?_, h⟩
    show Result.closed (_ && x.outbox.intents.isEmpty) _
      = .closed (_ && y.outbox.intents.isEmpty) _
    rw [hR.intents h, hR.isShutDown h]

theorem runAll (steps : List Step) :
    (runAll steps x).2 = (runAll steps y).2 ∧ R (runAll steps x).1 (runAll steps y).1 := by
  induction steps generalizing x y with
  | nil => exact ⟨rfl, h⟩
  | cons step steps ih =>
    obtain ⟨hresult, hstep⟩ := hR.run h step
    obtain ⟨hresults, hrest⟩ := ih hstep
    refine ⟨?_, hrest⟩
    show (x.run step).2 :: (Exchange.runAll steps (x.run step).1).2
      = (y.run step).2 :: (Exchange.runAll steps (y.run step).1).2
    rw [hresult, hresults]

end Bisimulation

end Exchange

end RoutingSessions
