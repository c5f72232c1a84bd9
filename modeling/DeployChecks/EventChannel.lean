import DeployChecks.Decimal.Power
import DeployChecks.EventSink

/-!
# EventChannel — a ring of events and the places of its readers

All receivers read the same slots.  The event that is sent goes to the slot after the last one, over
the oldest event once all slots are taken; a receiver is only a place in what was ever sent, and one
whose event is overwritten learns how many it missed and goes on with the oldest that is left.
Main definitions: `Ring`, `Cursor`, the instance of `Broadcast`, `EventChannel`.
-/

namespace DeployChecks

/-- **The place of a receiver**: how many of the sent events it is past. -/
structure Cursor where
  /-- The number of the event that is next. -/
  next : Nat
  deriving DecidableEq

/-- **A ring of events.** -/
structure Ring where
  /-- The slots, of which event number `i` takes the one at `i` modulo their number. -/
  slots : List (Option PhaseEvent)
  /-- How many events were sent. -/
  tail : Nat
  /-- The number of receivers. -/
  receivers : Nat
  /-- No more events will be sent. -/
  isClosed : Bool
  deriving DecidableEq

namespace Ring

/-- The greatest capacity that may be asked for. -/
def room : Nat := (UInt64.size - 1) / 2

/-- How many slots there are for a capacity: the least power of two from there on. -/
def slotsFor (capacity : Nat) : Nat :=
  if capacity ≤ 1 then 1 else twoTo ((capacity - 1).log2 + 1)

/-- A ring without events. -/
def ofCapacity (capacity receivers : Nat) : Ring :=
  ⟨.replicate (slotsFor capacity) none, 0, receivers, false⟩

/-- A new ring with a first receiver. -/
def make? (capacity : Nat) : Option (Ring × Cursor) :=
  if 0 < capacity ∧ capacity ≤ room then some (ofCapacity capacity 1, ⟨0⟩) else none

/-- A new receiver, which is past all that was sent. -/
def subscribe (c : Ring) : Cursor × Ring := (⟨c.tail⟩, { c with receivers := c.receivers + 1 })

/-- **Send an event.**  Where no one listens it is not kept. -/
def send (e : PhaseEvent) (c : Ring) : Option Nat × Ring :=
  if c.receivers = 0 then (none, c)
  else
    (some c.receivers,
      { c with slots := c.slots.set (c.tail % c.slots.length) (some e), tail := c.tail + 1 })

/-- What was sent under a number, as long as it is not overwritten. -/
def at? (c : Ring) (i : Nat) : Option PhaseEvent :=
  if i < c.tail then (c.slots[i % c.slots.length]?).join else none

/-- The number of the oldest event that is left. -/
def oldest (c : Ring) : Nat := c.tail - c.slots.length

/-- **Take what comes next**: first word of a loss, then the events. -/
def receive (r : Cursor) (c : Ring) : Receipt × Cursor × Ring :=
  if r.next < c.oldest then (.lagged (c.oldest - r.next), ⟨c.oldest⟩, c)
  else match c.at? r.next with
    | some e => (.event e, ⟨r.next + 1⟩, c)
    | none => (if c.isClosed then .closed else .nothing, r, c)

instance : Broadcast Ring Cursor where
  make? := make?
  subscribe := subscribe
  release _ c := { c with receivers := c.receivers - 1 }
  receiverCount := receivers
  send := send
  receive := receive
  close c := { c with isClosed := true }

end Ring

/-- **A sink over a ring**, with its receivers. -/
abbrev EventChannel := Audience Ring Cursor

namespace EventChannel

/-- The wording where a channel without capacity is asked for. -/
def noCapacityMessage : String := "broadcast channel capacity cannot be zero"

/-- The capacity of a channel, unless another is set. -/
def standardCapacity : Nat := 1000

/-- A new channel; nothing if there is none of that capacity. -/
def new? (capacity : Nat) : Option EventChannel := Audience.new? capacity

end EventChannel

end DeployChecks
