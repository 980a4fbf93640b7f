import EntityWire.Event.Basic

namespace EntityWire.Event

inductive ChannelError
  | noSubscribers
  | lagged (missed : Nat)
  | closed
  deriving DecidableEq, Repr

def ChannelError.message : ChannelError → String
  | .noSubscribers => "no subscribers for event"
  | .lagged missed => "subscriber lagged behind by " ++ toString missed ++ " events"
  | .closed => "event channel closed"

structure SubscriberId where
  index : Nat
  deriving DecidableEq, Repr

structure ChannelConfig where
  capacity : Nat := 64
  deriving DecidableEq, Repr

/-- A capacity is one at least. -/
def ChannelConfig.withCapacity (capacity : Nat) : ChannelConfig := ⟨max capacity 1⟩

def capacityLimit : Nat := 0x7fffffffffffffff

def capacityMessage : String :=
  "broadcast channel capacity exceeded `usize::MAX / 2`"

structure Channel (α : Type) where
  room : Nat
  sent : Nat
  /-- The newest events, oldest first. -/
  kept : List α
  publishers : Nat
  joined : Nat
  /-- The number of the next event of each subscriber. -/
  places : List (SubscriberId × Nat)

namespace Channel

variable {α : Type}

/-- A new channel with one publisher, unless the capacity is too great. -/
def create? (config : ChannelConfig) : Option (Channel α) :=
  let capacity := max config.capacity 1
  if capacity ≤ capacityLimit then some ⟨capacity.nextPowerOfTwo, 0, [], 1, 0, []⟩ else none

variable (c : Channel α)

def subscriberCount : Nat := c.places.length

def oldest : Nat := c.sent - c.kept.length

/-- Sends an event to all subscribers, and says how many there are; without any it is dropped. -/
def publish (a : α) : Channel α × Except ChannelError Nat :=
  if c.places.isEmpty then (c, .error .noSubscribers)
  else
    let kept := c.kept ++ [a]
    ({ c with sent := c.sent + 1, kept := kept.drop (kept.length - c.room) },
      .ok c.subscriberCount)

def subscribe : Channel α × SubscriberId :=
  ({ c with joined := c.joined + 1, places := c.places ++ [(⟨c.joined⟩, c.sent)] }, ⟨c.joined⟩)

def unsubscribe (s : SubscriberId) : Channel α :=
  { c with places := c.places.filter fun p ↦ p.1 ≠ s }

def addPublisher : Channel α := { c with publishers := c.publishers + 1 }

def dropPublisher : Channel α := { c with publishers := c.publishers - 1 }

def isClosed : Bool := c.publishers = 0

def place? (s : SubscriberId) : Option Nat := c.places.lookup s

def moveTo (s : SubscriberId) (place : Nat) : Channel α :=
  { c with places := c.places.map fun p ↦ if p.1 = s then (s, place) else p }

/-- The next event of a subscriber, if there is one yet. A subscriber whose next event is gone
moves to the oldest one kept; the end comes when all events were read and no publisher is left. -/
def receive (s : SubscriberId) : Channel α × Except ChannelError (Option α) :=
  match c.place? s with
  | none => (c, .error .closed)
  | some place =>
    if place < c.oldest then (c.moveTo s c.oldest, .error (.lagged (c.oldest - place)))
    else
      match c.kept[place - c.oldest]? with
      | some a => (c.moveTo s (place + 1), .ok (some a))
      | none => (c, if c.isClosed then .error .closed else .ok none)

end Channel

end EntityWire.Event
