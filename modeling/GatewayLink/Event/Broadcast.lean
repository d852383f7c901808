/-!
# Broadcasts

Every observer sees the messages that are published after it joined, in order.  Only the latest
messages are kept; an observer that has fallen behind is told how many it lost, and goes on with
the oldest one that is kept.
-/

namespace GatewayLink

/-- A broadcast to any number of observers. -/
structure Broadcast (α : Type) where
  /-- How many messages are kept. -/
  capacity : Nat
  /-- The messages that are kept, newest first. -/
  kept : List α
  /-- How many messages were published. -/
  published : Nat
  /-- For each observer how many messages it has passed; nothing for one that has left. -/
  observers : List (Option Nat)
  /-- Whether messages may still be published. -/
  isOpen : Bool

/-- What an observer receives. -/
inductive Notice (α : Type) where
  | message (value : α)
  /-- Some messages were lost. -/
  | lagged (count : Nat)
  /-- Nothing more will come. -/
  | closed
  deriving DecidableEq

namespace Broadcast

variable {α : Type}

/-- The least power of two that is not below a capacity; at least one. -/
def roundedCapacity (capacity : Nat) : Nat :=
  if capacity ≤ 1 then 1 else 1 <<< ((capacity - 1).log2 + 1)

/-- A broadcast that keeps at least so many messages. -/
def new (capacity : Nat) : Broadcast α where
  capacity := roundedCapacity capacity
  kept := []
  published := 0
  observers := []
  isOpen := true

/-- Publishes a message. -/
def publish (broadcast : Broadcast α) (message : α) : Broadcast α :=
  { broadcast with
    kept := (message :: broadcast.kept).take broadcast.capacity
    published := broadcast.published + 1 }

@[simp] theorem published_publish (broadcast : Broadcast α) (message : α) :
    (broadcast.publish message).published = broadcast.published + 1 := rfl

@[simp] theorem observers_publish (broadcast : Broadcast α) (message : α) :
    (broadcast.publish message).observers = broadcast.observers := rfl

/-- Lets an observer join; its number. -/
def subscribe (broadcast : Broadcast α) : Nat × Broadcast α :=
  (broadcast.observers.length,
    { broadcast with observers := broadcast.observers ++ [some broadcast.published] })

/-- Lets an observer leave; whether it was there. -/
def unsubscribe (broadcast : Broadcast α) (observer : Nat) : Bool × Broadcast α :=
  match broadcast.observers[observer]? with
  | some (some _) => (true, { broadcast with observers := broadcast.observers.set observer none })
  | _ => (false, broadcast)

/-- What an observer receives that is so many messages behind. -/
def missed (broadcast : Broadcast α) (behind : Nat) : List (Notice α) :=
  let messages := (broadcast.kept.take behind).reverse.map .message
  let messages :=
    if broadcast.capacity < behind then .lagged (behind - broadcast.capacity) :: messages
    else messages
  if broadcast.isOpen then messages else messages ++ [.closed]

/-- Gives an observer all that it has missed; nothing for one that has left. -/
def drain (broadcast : Broadcast α) (observer : Nat) : Option (List (Notice α)) × Broadcast α :=
  match broadcast.observers[observer]? with
  | some (some passed) =>
    (some (broadcast.missed (broadcast.published - passed)),
      { broadcast with
        observers := broadcast.observers.set observer (some broadcast.published) })
  | _ => (none, broadcast)

/-- Ends the broadcast. -/
def close (broadcast : Broadcast α) : Broadcast α :=
  { broadcast with isOpen := false }

end Broadcast

end GatewayLink
