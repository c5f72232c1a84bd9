import DeployChecks.Decimal.Binary64
import DeployChecks.Trace.Context

/-!
# Trace/Tracer — recording spans

A tracer starts spans, keeps what happens to them, and exports each at its end, once.  Main
definitions: `Sampler`, `Span`, `Tracer` with `start`, `addEvent`, `setStatus`, `finish`.
-/

namespace DeployChecks

namespace Trace

/-- **A named value of a span.** -/
abbrev Attribute := String × String

/-- **Something that happened during a span.** -/
structure SpanEvent where
  /-- What happened. -/
  name : String
  /-- Its named values. -/
  attributes : List Attribute
  deriving DecidableEq, Repr

/-- **How a span ended.** -/
inductive SpanStatus where
  /-- Nothing is known. -/
  | unset
  /-- Badly. -/
  | error (description : String)
  /-- Well. -/
  | ok
  deriving DecidableEq, Repr

namespace SpanStatus

/-- **The order in which statuses prevail**: unset, then errors by their description, then ok. -/
def lt : SpanStatus → SpanStatus → Bool
  | unset, unset => false
  | unset, _ => true
  | error _, unset => false
  | error a, error b => a < b
  | error _, ok => true
  | ok, _ => false

/-- A status replaces one that it prevails over. -/
def merge (old new : SpanStatus) : SpanStatus := if old.lt new then new else old

/-- A status as text. -/
def text : SpanStatus → String
  | unset => "Unset"
  | error description => s!"Error: {description}"
  | ok => "Ok"

end SpanStatus

/-- **The role of a span.** -/
inductive SpanKind where
  /-- Work inside the program. -/
  | internal
  /-- Work on what another program asked for. -/
  | consumer
  deriving DecidableEq, Repr

/-- The name of a role. -/
def SpanKind.name : SpanKind → String
  | internal => "Internal"
  | consumer => "Consumer"

/-- **What is recorded of a span.** -/
structure Span where
  /-- The name. -/
  name : String
  /-- The role. -/
  kind : SpanKind
  /-- What others know of it. -/
  context : SpanContext
  /-- The span in which it was started, zero if none. -/
  parent : SpanId
  /-- The named values. -/
  attributes : List Attribute
  /-- What happened, in order. -/
  events : List SpanEvent
  /-- How it ended. -/
  status : SpanStatus
  /-- It is over. -/
  ended : Bool
  deriving DecidableEq, Repr

/-- The greatest number of named values of a span or an event, and of events of a span. -/
def maxKept : Nat := 128

namespace Span

/-- Something happened, as long as there is room. -/
def addEvent (s : Span) (e : SpanEvent) : Span :=
  if s.ended || maxKept ≤ s.events.length then s
  else { s with events := s.events ++ [{ e with attributes := e.attributes.take maxKept }] }

/-- Set the status, where it prevails. -/
def setStatus (s : Span) (status : SpanStatus) : Span :=
  if s.ended then s else { s with status := s.status.merge status }

end Span

/-- **Which new traces are recorded.** -/
inductive Sampler where
  /-- All. -/
  | always
  /-- None. -/
  | never
  /-- Those whose identity is low enough. -/
  | ratio (rate : Binary64)
  /-- All; within a trace, those whose parent is recorded. -/
  | followParent
  deriving DecidableEq, Repr

/-- **The decision of a sampler** on a span of a trace. -/
def Sampler.samples (s : Sampler) (parent : Option SpanContext) (trace : TraceId) : Bool :=
  match s with
  | always => true
  | never => false
  | ratio rate => trace.toNat % UInt64.size / 2 < rate.floorScaled 63
  | followParent =>
    match parent with
    | some p => p.sampled
    | none => true

/-- **Where new identities come from**: the one for each draw. -/
structure IdSource where
  /-- The identities of traces. -/
  trace : Nat → TraceId
  /-- The identities of spans. -/
  span : Nat → SpanId

/-- **A tracer.** -/
structure Tracer where
  /-- Where new identities come from. -/
  ids : IdSource
  /-- Which traces are recorded. -/
  sampler : Sampler
  /-- How many spans were started. -/
  started : Nat
  /-- The records, by their places. -/
  spans : List Span
  /-- The records of the spans that are over, in the order of their ends. -/
  exported : List Span
  /-- No more spans are recorded. -/
  isShutDown : Bool

namespace Tracer

/-- A tracer that has started nothing. -/
def new (ids : IdSource) (sampler : Sampler) : Tracer := ⟨ids, sampler, 0, [], [], false⟩

/-- **Start a span** in a context, and give the context inside it. -/
def start (t : Tracer) (name : String) (kind : SpanKind) (parent : Context)
    (attributes : List Attribute) : Context × Tracer :=
  if t.isShutDown then ({ parent with span := some ⟨.none, none⟩ }, t)
  else
    let parentContext := parent.span.map (·.context)
    let traceId := (parentContext.map (·.traceId)).getD (t.ids.trace t.started)
    let sampled := t.sampler.samples parentContext traceId
    let context : SpanContext :=
      ⟨traceId, t.ids.span t.started, sampled, false, parent.spanContext.state⟩
    let t := { t with started := t.started + 1 }
    if sampled then
      let span : Span :=
        ⟨name, kind, context, parent.spanContext.spanId, attributes.take maxKept, [], .unset, false⟩
      ({ parent with span := some ⟨context, some t.spans.length⟩ },
        { t with spans := t.spans ++ [span] })
    else ({ parent with span := some ⟨context, none⟩ }, t)

/-- Change the record at a place. -/
def change (t : Tracer) (handle : Option Nat) (f : Span → Span) : Tracer :=
  match handle with
  | some n => { t with spans := t.spans.modify n f }
  | none => t

/-- **Something happened** in the span of a context. -/
def addEvent (t : Tracer) (c : Context) (e : SpanEvent) : Tracer := t.change c.handle (·.addEvent e)

/-- **Set the status** of the span of a context. -/
def setStatus (t : Tracer) (c : Context) (s : SpanStatus) : Tracer :=
  t.change c.handle (·.setStatus s)

/-- The record of the span of a context, as long as it is not over. -/
def openSpan? (t : Tracer) (c : Context) : Option Span :=
  (c.handle.bind fun n => t.spans[n]?).filter fun s => !s.ended

/-- The span of a context is being recorded. -/
def isRecording (t : Tracer) (c : Context) : Bool := (t.openSpan? c).isSome

/-- **End the span** of a context, and export it.  A second end does nothing. -/
def finish (t : Tracer) (c : Context) : Tracer :=
  match t.openSpan? c with
  | some s =>
    let s := { s with ended := true }
    { t.change c.handle (fun _ => s) with exported := t.exported ++ [s] }
  | none => t

end Tracer

end Trace

end DeployChecks
