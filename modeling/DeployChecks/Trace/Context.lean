import DeployChecks.Decimal.Power
import DeployChecks.StringMap
import DeployChecks.Text.Blank
import DeployChecks.Text.Hex
import DeployChecks.Trace.Baggage
import DeployChecks.Trace.State

/-!
# Trace/Context — the place in a trace, and its headers

A context names the span in which something happens, and carries baggage.  It crosses from one
program to the next as headers of text.  Main definitions: `SpanContext`, `Context`,
`Context.inject`, `Context.extract`.
-/

namespace DeployChecks

namespace Trace

/-- **The identity of a trace.**  Zero is no identity. -/
abbrev TraceId := BitVec 128

/-- **The identity of a span.**  Zero is no identity. -/
abbrev SpanId := BitVec 64

/-- A trace identity as text. -/
def traceIdText (t : TraceId) : String := String.ofList (Text.hexOfWidth 32 t.toNat)

/-- A span identity as text. -/
def spanIdText (s : SpanId) : String := String.ofList (Text.hexOfWidth 16 s.toNat)

/-- **What others know of a span.** -/
structure SpanContext where
  /-- The trace. -/
  traceId : TraceId
  /-- The span. -/
  spanId : SpanId
  /-- The span is recorded. -/
  sampled : Bool
  /-- The span is one of another program. -/
  remote : Bool
  /-- The vendor entries of the trace. -/
  state : TraceState
  deriving DecidableEq, Repr

namespace SpanContext

/-- No span. -/
def none : SpanContext := ⟨0, 0, false, false, .empty⟩

instance : Inhabited SpanContext := ⟨none⟩

/-- There is a span. -/
def isValid (c : SpanContext) : Bool := c.traceId != 0 && c.spanId != 0

end SpanContext

/-- **The span in which something happens**: `handle` leads to the record, if one is kept here. -/
structure ActiveSpan where
  /-- What others know of it. -/
  context : SpanContext
  /-- The place of its record. -/
  handle : Option Nat
  deriving DecidableEq, Repr

/-- **A context.** -/
structure Context where
  /-- The span, if any. -/
  span : Option ActiveSpan
  /-- The named values. -/
  baggage : Baggage

namespace Context

/-- The context without span and baggage. -/
def empty : Context := ⟨none, {}⟩

instance : Inhabited Context := ⟨empty⟩

/-- The span of a context, as others know it. -/
def spanContext (c : Context) : SpanContext :=
  match c.span with
  | some s => s.context
  | none => .none

/-- The place of the record of its span. -/
def handle (c : Context) : Option Nat := c.span.bind (·.handle)

/-! ## Headers -/

/-- The header that names trace and span. -/
def traceparentHeader : String := "traceparent"

/-- The header of the vendor entries. -/
def tracestateHeader : String := "tracestate"

/-- The header of the baggage. -/
def baggageHeader : String := "baggage"

/-- The header of a span: version, trace, span and flags. -/
def traceparent (c : SpanContext) : String :=
  s!"00-{traceIdText c.traceId}-{spanIdText c.spanId}-" ++ if c.sampled then "01" else "00"

/-- A hexadecimal number of so many bits at most. -/
def readBits? (bits : Nat) (cs : List Char) : Option (BitVec bits) :=
  (Text.readHex? cs).bind fun n => if n < twoTo bits then some (.ofNat bits n) else none

/-- A hexadecimal number of so many bits at most, without capitals. -/
def readId? (bits : Nat) (cs : List Char) : Option (BitVec bits) :=
  if cs.any Char.isUpper then none else readBits? bits cs

/-- **Reading the header of a span.**  Later versions may have more parts and other flags; only
the lowest flag counts. -/
def readTraceparent? (header : String) (state : TraceState) : Option SpanContext :=
  match TraceState.pieces '-' (Text.trim header.toList) with
  | version :: trace :: span :: flags :: rest =>
    match readBits? 8 version, readId? 128 trace, readId? 64 span, readBits? 8 flags with
    | some version, some traceId, some spanId, some flags =>
      let c : SpanContext := ⟨traceId, spanId, flags.toNat % 2 == 1, true, state⟩
      if version.toNat ≤ 254 && (version.toNat != 0 || (rest.isEmpty && flags.toNat ≤ 2))
          && c.isValid then some c else none
    | _, _, _, _ => none
  | _ => none

/-- **Writing the headers of a context.** -/
def inject (c : Context) : StringMap String :=
  let span := c.spanContext
  let spanHeaders : List (String × String) :=
    if span.isValid then
      [(traceparentHeader, traceparent span), (tracestateHeader, span.state.header)]
    else []
  let baggageHeaders : List (String × String) :=
    if c.baggage.size = 0 then [] else [(baggageHeader, Baggage.header c.baggage)]
  StringMap.ofList (spanHeaders ++ baggageHeaders)

/-- **Reading a context from headers.** -/
def extract (headers : StringMap String) : Context where
  span :=
    let state := ((headers.find? tracestateHeader).bind TraceState.read?).getD .empty
    ((headers.find? traceparentHeader).bind fun h => readTraceparent? h state).map (⟨·, none⟩)
  baggage := ((headers.find? baggageHeader).map Baggage.read).getD {}

end Context

end Trace

end DeployChecks
