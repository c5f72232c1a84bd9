import DeployChecks.Keyed
import DeployChecks.Log.Record
import DeployChecks.PhaseEvent

/-!
# EventSink — events to every receiver

A sink logs an event, counts it and sends it through a broadcast channel, from which every receiver
takes what was sent since it subscribed.  The channel is brought along (`Broadcast`): the sink holds
its sender, whoever subscribed holds a receiver, and `Audience` is a sink with all receivers that
were taken from it.  Main definitions: `Broadcast`, `EventSink.emit`, `Audience`.
-/

namespace DeployChecks

/-- **Why an event is not delivered.** -/
inductive EventError where
  /-- The channel is closed. -/
  | channelClosed
  /-- The delivery failed. -/
  | delivery (text : String)
  deriving DecidableEq, Repr

/-- The wording of an error. -/
def EventError.message : EventError → String
  | channelClosed => "event channel is closed"
  | delivery text => s!"event delivery failed: {text}"

/-- **What a receiver is answered.** -/
inductive Receipt where
  /-- The next event. -/
  | event (e : PhaseEvent)
  /-- So many events were lost. -/
  | lagged (n : Nat)
  /-- There is no event. -/
  | nothing
  /-- There is no event and none will come. -/
  | closed
  deriving DecidableEq

/-- **A broadcast channel of events**: senders `σ`, which hold all that is shared, and receivers
`ρ`. -/
class Broadcast (σ : Type) (ρ : outParam Type) where
  /-- A channel that keeps at least so many events, with its first receiver; nothing if there is no
  channel of that capacity. -/
  make? : Nat → Option (σ × ρ)
  /-- A new receiver. -/
  subscribe : σ → ρ × σ
  /-- Drop a receiver. -/
  release : ρ → σ → σ
  /-- The number of receivers. -/
  receiverCount : σ → Nat
  /-- Send an event.  The answer is the number of receivers, or nothing where there is none. -/
  send : PhaseEvent → σ → Option Nat × σ
  /-- Take what comes next for a receiver, without waiting. -/
  receive : ρ → σ → Receipt × ρ × σ
  /-- Drop the sender. -/
  close : σ → σ

/-- **A sink of events.** -/
structure EventSink (σ : Type) where
  /-- The sender of its channel. -/
  sender : σ
  /-- How many events were emitted.  The count stands for a 64-bit one, as long as it stays below
  `UInt64.size`. -/
  published : Nat

namespace EventSink

variable {σ ρ : Type} [Broadcast σ ρ]

/-- A new sink; nothing if there is no channel of that capacity.  No one has subscribed, so the
first receiver is dropped. -/
def new? (capacity : Nat) : Option (EventSink σ) :=
  (Broadcast.make? capacity).map fun channel => ⟨Broadcast.release channel.2 channel.1, 0⟩

/-- A new receiver. -/
def subscribe (s : EventSink σ) : ρ × EventSink σ :=
  let (r, sender) := Broadcast.subscribe s.sender
  (r, { s with sender })

/-- The number of receivers. -/
def subscriberCount (s : EventSink σ) : Nat := Broadcast.receiverCount s.sender

/-- The log record of an event. -/
def note (e : PhaseEvent) : Log.Record :=
  let fields : List (String × Log.Value) :=
    [("event", .shown e.name), ("namespace", .shown e.subject.ns), ("name", .shown e.subject.name)]
  match e.severity with
  | .normal => Log.debug e.summary fields
  | .warning => Log.warn e.summary fields

/-- The log record where no one listens. -/
def unheard : Log.Record := Log.debug "No event subscribers attached" []

/-- **Emit an event.**  That no one listens is no error. -/
def emit (e : PhaseEvent) (s : EventSink σ) :
    (Except EventError Unit × List Log.Record) × EventSink σ :=
  match Broadcast.send e s.sender with
  | (some _, sender) => ((.ok (), [note e]), ⟨sender, s.published + 1⟩)
  | (none, sender) => ((.ok (), [note e, unheard]), ⟨sender, s.published + 1⟩)

end EventSink

/-- **A sink and the receivers that were taken from it.** -/
structure Audience (σ ρ : Type) where
  /-- The sink.  Its channel is there for the receivers also once the sink is dropped. -/
  sink : EventSink σ
  /-- The receivers under their numbers. -/
  receivers : Keyed Nat ρ
  /-- The number of the next receiver. -/
  nextReceiver : Nat
  /-- The sink is dropped. -/
  isClosed : Bool

namespace Audience

variable {σ ρ : Type} [Broadcast σ ρ]

/-- A new sink without receivers; nothing if there is no channel of that capacity. -/
def new? (capacity : Nat) : Option (Audience σ ρ) :=
  (EventSink.new? capacity).map fun sink => ⟨sink, {}, 0, false⟩

/-- The number of receivers. -/
def receiverCount (a : Audience σ ρ) : Nat := a.sink.subscriberCount

/-- How many events were emitted. -/
def published (a : Audience σ ρ) : Nat := a.sink.published

/-- **A new receiver**, with its number. -/
def subscribe (a : Audience σ ρ) : Nat × Audience σ ρ :=
  let (r, sink) := a.sink.subscribe
  (a.nextReceiver,
    { a with
      sink
      receivers := a.receivers.insert a.nextReceiver r
      nextReceiver := a.nextReceiver + 1 })

/-- **Drop a receiver**; tells whether it was there. -/
def unsubscribe (a : Audience σ ρ) (n : Nat) : Bool × Audience σ ρ :=
  match a.receivers.find? n with
  | some r =>
    (true,
      { a with
        sink := { a.sink with sender := Broadcast.release r a.sink.sender }
        receivers := a.receivers.erase n })
  | none => (false, a)

/-- **Send an event** to every receiver. -/
def send (a : Audience σ ρ) (e : PhaseEvent) : Audience σ ρ :=
  { a with sink := (a.sink.emit e).2 }

/-- **Take what comes next for a receiver**, if there is one. -/
def receive (a : Audience σ ρ) (n : Nat) : Option Receipt × Audience σ ρ :=
  match a.receivers.find? n with
  | some r =>
    let (receipt, r, sender) := Broadcast.receive r a.sink.sender
    (some receipt,
      { a with
        sink := { a.sink with sender }
        receivers := a.receivers.insert n r })
  | none => (none, a)

/-- **Drop the sink.** -/
def close (a : Audience σ ρ) : Audience σ ρ :=
  { a with
    sink := { a.sink with sender := Broadcast.close a.sink.sender }
    isClosed := true }

end Audience

end DeployChecks
