/-
  RoutingSessions.Delivery — changes on their way to those who want to know.

  Subscribers get every change that is published after they subscribed, in order and
  in the order in which they subscribed.  A subscriber may break down on a change; the
  delivery breaks down with it: those who subscribed later miss that change, and no
  change arrives anywhere afterwards.  A delivery that has been closed stays closed.

  Main statements:
    * `publish_of_steady` — while no subscriber breaks down, each gets what is
      published.
    * `close_close` — closing twice is closing once.
-/
import RoutingSessions.Journal

namespace RoutingSessions

/-! ## Recorders -/

/-- A record of changes, oldest first. -/
structure Recorder where
  changes : List Change
deriving DecidableEq, Inhabited

namespace Recorder

/-- The record of nothing. -/
def empty : Recorder := ⟨[]⟩

/-- Puts a change on record. -/
def record (c : Change) (r : Recorder) : Recorder := ⟨r.changes ++ [c]⟩

/-- How many changes are on record. -/
def count (r : Recorder) : Nat := r.changes.length

/-- The changes on record, and the record without them. -/
def take (r : Recorder) : List Change × Recorder := (r.changes, empty)

end Recorder

/-! ## Subscribers -/

/-- Someone who wants to know of changes. -/
structure Subscriber where
  /-- What has arrived. -/
  recorder : Recorder
  /-- The number of the change on which the subscriber breaks down, counted from one. -/
  breaksAt : Option Nat
deriving DecidableEq, Inhabited

namespace Subscriber

/-- A subscriber that never breaks down. -/
def steady : Subscriber := ⟨.empty, none⟩

/-- A subscriber that breaks down on its `n`-th change. -/
def fragile (n : Nat) : Subscriber := ⟨.empty, some n⟩

/-- Hands a change to the subscriber. -/
def receive (c : Change) (s : Subscriber) : Subscriber :=
  { s with recorder := s.recorder.record c }

/-- The change that came last is one on which the subscriber breaks down. -/
def hasBroken (s : Subscriber) : Bool := s.breaksAt = some s.recorder.count

/-- Hands a change to one subscriber after the other, up to one that breaks down; says whether
none did. -/
def handOut (c : Change) : List Subscriber → List Subscriber × Bool
  | [] => ([], true)
  | s :: ss =>
    let s := s.receive c
    if s.hasBroken then (s :: ss, false)
    else
      let rest := handOut c ss
      (s :: rest.1, rest.2)

/-- Hands out the changes up to one on which a subscriber breaks down; says whether none did. -/
def handOutAll : List Change → List Subscriber → List Subscriber × Bool
  | [], ss => (ss, true)
  | c :: cs, ss =>
    let done := handOut c ss
    if done.2 then handOutAll cs done.1 else done

end Subscriber

/-! ## Deliveries -/

/-- Whether changes arrive. -/
inductive DeliveryStatus where
  | running
  /-- A subscriber has broken down. -/
  | broken
  | closed
deriving DecidableEq, Inhabited

/-- Why there is no waiting for a delivery. -/
inductive DeliveryError where
  /-- It has broken down, or was closed. -/
  | closed
deriving DecidableEq

/-- The wording of a delivery error. -/
def DeliveryError.message : DeliveryError → String
  | .closed => "observer dispatcher is closed"

/-- The delivery of changes. -/
structure Delivery where
  status : DeliveryStatus
  /-- Those who want to know, in the order in which they subscribed. -/
  subscribers : List Subscriber
deriving DecidableEq, Inhabited

namespace Delivery

/-- A running delivery. -/
def start (subscribers : List Subscriber) : Delivery := ⟨.running, subscribers⟩

/-- Adds a subscriber. -/
def subscribe (s : Subscriber) (d : Delivery) : Delivery :=
  { d with subscribers := d.subscribers ++ [s] }

/-- Changes that are published arrive. -/
def isRunning (d : Delivery) : Bool := d.status = .running

/-- Waits until everything published so far has arrived. -/
def flush (d : Delivery) : Except DeliveryError Unit :=
  if d.isRunning then .ok () else .error .closed

/-- Publishes changes. -/
def publish (changes : List Change) (d : Delivery) : Delivery × List Note :=
  match d.status with
  | .running =>
    let done := Subscriber.handOutAll changes d.subscribers
    (⟨if done.2 then .running else .broken, done.1⟩, [])
  | .broken => (d, if changes.isEmpty then [] else [.deliveryStopped])
  | .closed => (d, if changes.isEmpty then [] else [.undeliverable changes.length])

/-- Ends the delivery. -/
def close (d : Delivery) : Delivery × List Note :=
  ({ d with status := .closed },
    match d.status with
    | .running => [.deliveryEnded]
    | .broken => [.deliveryBroken]
    | .closed => [])

/-! ## What arrives -/

theorem close_close (d : Delivery) : d.close.1.close = (d.close.1, []) := rfl

theorem handOut_of_steady {c : Change} {ss : List Subscriber}
    (h : ∀ s ∈ ss, s.breaksAt = none) :
    Subscriber.handOut c ss = (ss.map (Subscriber.receive c), true) := by
  induction ss with
  | nil => rfl
  | cons s ss ih =>
    have hs : s.breaksAt = none := h s (by simp)
    have hss := ih fun t ht => h t (by simp [ht])
    simp [Subscriber.handOut, Subscriber.hasBroken, Subscriber.receive, hs, hss]

theorem publish_of_steady {d : Delivery} (hr : d.isRunning = true)
    (h : ∀ s ∈ d.subscribers, s.breaksAt = none) (changes : List Change) :
    d.publish changes
      = (⟨.running, d.subscribers.map fun s =>
          { s with recorder := ⟨s.recorder.changes ++ changes⟩ }⟩, []) := by
  obtain ⟨status, ss⟩ := d
  have hs : status = .running := by simpa [isRunning] using hr
  subst hs
  have key : Subscriber.handOutAll changes ss
      = (ss.map fun s => { s with recorder := ⟨s.recorder.changes ++ changes⟩ }, true) := by
    simp only at h
    clear hr
    induction changes generalizing ss with
    | nil => simp [Subscriber.handOutAll]
    | cons c cs ih =>
      have hmap : ∀ s ∈ ss.map (Subscriber.receive c), s.breaksAt = none := by
        intro s hs
        obtain ⟨t, ht, rfl⟩ := List.mem_map.1 hs
        exact h t ht
      simp [Subscriber.handOutAll, handOut_of_steady h, ih _ hmap, Subscriber.receive,
        Recorder.record]
  simp [publish, key]

end Delivery

end RoutingSessions
