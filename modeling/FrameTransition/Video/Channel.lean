/-!
# Bounded channels

A sender and a receiver share a queue of a fixed capacity, at least one, the oldest item first. Sending
waits while the queue is full and fails once the receiver is gone. Receiving waits while the queue is
empty; what is queued is handed out also after the sender has ended, and only then is the channel over.
Whatever waits changes nothing, so waiting is an outcome here and not an action.
-/

namespace FrameTransition.Video

/-- A channel at one moment. -/
structure Channel (α : Type) where
  /-- What was sent and not received, the oldest first. -/
  queue : List α
  /-- The sender is gone. -/
  ended : Bool
  /-- The receiver is gone. -/
  abandoned : Bool
  deriving DecidableEq

namespace Channel

variable {α : Type}

/-- A channel nothing was sent through. -/
def new : Channel α := ⟨[], false, false⟩

/-- What sending comes to. -/
inductive Sending (α : Type) where
  | waits
  | refused
  | accepted (after : Channel α)

/-- What receiving comes to. -/
inductive Receiving (α : Type) where
  | waits
  | over
  | received (item : α) (after : Channel α)

/-- Sends an item. -/
def send (capacity : Nat) (channel : Channel α) (item : α) : Sending α :=
  if channel.abandoned then .refused
  else if channel.queue.length < capacity then .accepted { channel with queue := channel.queue ++ [item] }
  else .waits

/-- Receives the oldest item. -/
def receive (channel : Channel α) : Receiving α :=
  match channel.queue with
  | item :: rest => .received item { channel with queue := rest }
  | [] => if channel.ended then .over else .waits

/-- The sender is gone, and what it sent stays. -/
def finish (channel : Channel α) : Channel α := { channel with ended := true }

/-- The receiver is gone, and what was queued is lost. -/
def abandon (channel : Channel α) : Channel α := { channel with abandoned := true, queue := [] }

variable {capacity : Nat} {channel after : Channel α} {item : α}

theorem send_eq_accepted_iff : channel.send capacity item = .accepted after ↔
    channel.abandoned = false ∧ channel.queue.length < capacity ∧
      after = { channel with queue := channel.queue ++ [item] } := by
  unfold send
  by_cases hgone : channel.abandoned = true
  · simp [hgone]
  · by_cases hroom : channel.queue.length < capacity
    · simp [hgone, hroom, eq_comm]
    · simp [hgone, hroom]

theorem send_eq_refused_iff : channel.send capacity item = .refused ↔ channel.abandoned = true := by
  unfold send
  by_cases hgone : channel.abandoned = true
  · simp [hgone]
  · by_cases hroom : channel.queue.length < capacity <;> simp [hgone, hroom]

theorem receive_eq_received_iff : channel.receive = .received item after ↔
    ∃ rest, channel.queue = item :: rest ∧ after = { channel with queue := rest } := by
  unfold receive
  cases hqueue : channel.queue with
  | nil => by_cases hended : channel.ended = true <;> simp [hended]
  | cons first rest =>
    constructor
    · intro h
      cases h
      exact ⟨rest, rfl, rfl⟩
    · rintro ⟨rest', hrest, rfl⟩
      cases hrest
      rfl

theorem receive_eq_over_iff : channel.receive = .over ↔ channel.queue = [] ∧ channel.ended = true := by
  unfold receive
  cases hqueue : channel.queue with
  | nil => by_cases hended : channel.ended = true <;> simp [hended]
  | cons first rest => simp

end Channel

end FrameTransition.Video
