/-
  RoutingSessions.Proofs.Exchange.Rest — exchanges at rest.

  Every step of a run is carried on until nothing can be done before time passes.  So
  between two steps there is no canceled order left, and no order is due: what is left
  waits for its next attempt.

  Main statements:
    * `Outbox.not_ready_of_next?` — what is left at rest waits.
    * `next?_run`, `next?_runAll` — after every step an exchange is at rest.
-/
import RoutingSessions.Proofs.Exchange.Moves

namespace RoutingSessions

/-- What is left at rest waits. -/
theorem Outbox.not_ready_of_next? {o : Outbox} (hrest : o.next? = none) {i : Intent}
    (hi : i ∈ o.intents) : i.canceled = false ∧ o.clock < i.due := by
  have hidle := List.find?_eq_none.1 hrest i hi
  simpa [isReady] using hidle

namespace Exchange

section Rest

variable {x : Exchange} (hx : x.outbox.next? = none)
include hx

theorem next?_advance (ms : Nat) : (x.advance ms).outbox.next? = none := by
  induction ms generalizing x with
  | zero => exact hx
  | succ ms ih =>
    show (x.tick.advance ms).outbox.next? = none
    exact ih (next?_drain _)

theorem next?_settle (ms : Nat) : (settle ms x).1.outbox.next? = none := by
  induction ms generalizing x with
  | zero => exact hx
  | succ ms ih =>
    unfold settle
    split
    next => exact hx
    next => exact ih (next?_drain _)

/-- **A step that begins at rest ends at rest.** -/
theorem next?_run (step : Step) : (x.run step).1.outbox.next? = none := by
  cases step with
  | ask c => exact next?_drain _
  | batch cs => exact next?_drain _
  | advance ms => exact next?_advance hx ms
  | settle ms => exact next?_settle hx ms
  | script more => exact hx
  | closed => exact hx

/-- **So does a run.** -/
theorem next?_runAll (steps : List Step) : (runAll steps x).1.outbox.next? = none := by
  induction steps generalizing x with
  | nil => exact hx
  | cons step steps ih =>
    show (runAll steps (x.run step).1).1.outbox.next? = none
    exact ih (next?_run hx step)

end Rest

theorem next?_start (settings : CommandSettings) (builder : CommandBuilder) (script : Script) :
    (start (.new settings builder) script).outbox.next? = none := rfl

end Exchange

end RoutingSessions
