/-!
# Broadcast channels

A channel hands every published message to every receiver that is subscribed at the time.
It keeps a limited number of messages; a receiver that falls further behind loses the
oldest, and is told how many before it gets those that are kept. Messages are numbered in
order of publication, and a receiver is known by the number of the message it gets next.
-/

namespace MediaGrid

/-- A channel for messages of one type. -/
structure Channel (α : Type) where
  /-- How many messages are kept. -/
  capacity : Nat
  /-- How many messages were published to at least one receiver. -/
  sent : Nat
  /-- The last messages published, oldest first. -/
  kept : List α
  /-- The receivers, each with the number of its next message. -/
  receivers : List (Nat × Nat)

/-- What a receiver takes from the channel. -/
inductive Delivery (α : Type) where
  /-- So many messages were lost. -/
  | lagged (missed : Nat)
  /-- A message. -/
  | message (content : α)
  deriving DecidableEq, Repr

/-- The smallest power of two that is not below `n`, searched with `fuel` doublings of
`power`. -/
def powerFrom : (fuel power n : Nat) → Nat
  | 0, power, _ => power
  | fuel + 1, power, n => if n ≤ power then power else powerFrom fuel (2 * power) n

/-- The smallest power of two that is not below `n`. -/
def nextPowerOfTwo (n : Nat) : Nat := powerFrom n 1 n

namespace Channel

/-- A channel without receivers that keeps at least `capacity` messages. -/
def create (capacity : Nat) : Channel α := ⟨nextPowerOfTwo capacity, 0, [], []⟩

/-- Adds a receiver under a key; it gets the messages published from now on. -/
def subscribe (channel : Channel α) (key : Nat) : Channel α :=
  { channel with
    receivers := channel.receivers.filter (·.1 != key) ++ [(key, channel.sent)] }

/-- Removes a receiver. -/
def unsubscribe (channel : Channel α) (key : Nat) : Channel α :=
  { channel with receivers := channel.receivers.filter (·.1 != key) }

/-- Whether there is a receiver under a key. -/
def isSubscribed (channel : Channel α) (key : Nat) : Bool :=
  channel.receivers.any (·.1 == key)

/-- Publishes a message. Without receivers it is lost and not counted. -/
def publish (channel : Channel α) (message : α) : Channel α :=
  if channel.receivers.isEmpty then channel
  else
    let kept := channel.kept ++ [message]
    { channel with
      sent := channel.sent + 1
      kept := kept.drop (kept.length - channel.capacity) }

/-- Everything that waits for a receiver whose next message has the number `next`. -/
def waiting (channel : Channel α) (next : Nat) : List (Delivery α) :=
  let oldest := channel.sent - channel.kept.length
  if next < oldest then
    .lagged (oldest - next) :: channel.kept.map .message
  else (channel.kept.drop (next - oldest)).map .message

/-- Takes everything that waits for a receiver; nothing if there is no such receiver. -/
def drain (channel : Channel α) (key : Nat) : Option (List (Delivery α)) × Channel α :=
  match channel.receivers.find? (·.1 == key) with
  | none => (none, channel)
  | some (_, next) =>
    (some (channel.waiting next),
      { channel with
        receivers := channel.receivers.map fun receiver =>
          if receiver.1 == key then (key, channel.sent) else receiver })

end Channel

end MediaGrid
