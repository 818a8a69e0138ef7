namespace PsxPlayer

/-!
# Bounded channels

A first-in first-out queue with room for a fixed number of messages. Sending
waits while the queue is full and fails once nobody can receive any more.
-/

/-- A channel with its waiting messages, oldest first. -/
structure Channel (α : Type) where
  capacity : Nat
  waiting : List α
  /-- Whether the receiving end still exists. -/
  hasReceiver : Bool
  deriving DecidableEq, Repr

/-- What becomes of a message. -/
inductive Sent (α : Type) where
  | accepted (channel : Channel α)
  /-- The queue is full, and the sender has to wait. -/
  | full
  /-- There is no receiver. -/
  | refused

namespace Channel

/-- An empty channel; it has room for one message at least. -/
def ofCapacity (α : Type) (capacity : Nat) : Channel α where
  capacity := max capacity 1
  waiting := []
  hasReceiver := true

/-- Send a message. -/
def send {α : Type} (channel : Channel α) (message : α) : Sent α :=
  if !channel.hasReceiver then
    .refused
  else if channel.waiting.length < channel.capacity then
    .accepted { channel with waiting := channel.waiting ++ [message] }
  else
    .full

/-- Take the oldest message, if one waits. -/
def receive? {α : Type} (channel : Channel α) : Option α × Channel α :=
  match channel.waiting with
  | [] => (none, channel)
  | message :: rest => (some message, { channel with waiting := rest })

/-- Give up the receiving end; the messages that wait are lost. -/
def close {α : Type} (channel : Channel α) : Channel α :=
  { channel with
    waiting := []
    hasReceiver := false }

end Channel

end PsxPlayer
