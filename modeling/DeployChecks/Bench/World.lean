import DeployChecks.Engine.Pass
import DeployChecks.EventChannel

/-!
# Bench/World — an engine on a bench

The engine runs over collaborators in memory: a task store, a definition registry, a span registry
and a sink of events over a ring.  Any of them can be told to fail, and a call can be told to cancel
the pass.  Main definitions: `Bench.backend`, `Bench.observer`, `Bench.engine`.
-/

namespace DeployChecks

namespace Bench

open Trace (Context)

/-! ## Faults -/

/-- **How a store fails.** -/
inductive StoreFault where
  /-- As if there were no such task. -/
  | notFound
  /-- As if there were such a task. -/
  | alreadyExists
  /-- It cannot be reached. -/
  | unavailable (text : String)
  /-- It refuses. -/
  | request (text : String)

/-- The error for a call about a task. -/
def StoreFault.error (f : StoreFault) (ns name : String) : StoreError :=
  match f with
  | notFound => .notFound ns name
  | alreadyExists => .alreadyExists ns name
  | unavailable text => .unavailable text
  | request text => .request text

/-- **What goes wrong with a creation.** -/
inductive CreateFault where
  /-- It fails. -/
  | fail (f : StoreFault)
  /-- The task is stored under another name. -/
  | rename (name : String)

/-- **How a resolution fails.** -/
inductive ResolveFault where
  /-- As if there were no such definition. -/
  | notFound
  /-- The lookup fails. -/
  | lookup (text : String)

/-- **What is out of order.** -/
structure Faults where
  /-- By the name of the task that is asked for. -/
  get : Keyed String StoreFault
  /-- By the definition of the task that is created. -/
  create : Keyed String CreateFault
  /-- By the name that is resolved. -/
  resolve : Keyed String ResolveFault

/-- **Which calls can cancel.** -/
inductive CallKind where
  /-- Asking for a task. -/
  | get
  /-- Creating a task. -/
  | create
  /-- Resolving a definition. -/
  | resolve
  deriving DecidableEq

/-- **A call that cancels the pass.** -/
structure Tripwire where
  /-- The kind of the call. -/
  kind : CallKind
  /-- Which call of the kind, from one on. -/
  nth : Nat
  /-- The call does not come back. -/
  hang : Bool

/-! ## The backend -/

/-- **What decides, on the bench.** -/
structure Ground where
  /-- The tasks. -/
  store : TaskStore
  /-- The definitions. -/
  registry : DefinitionRegistry
  /-- What is out of order. -/
  faults : Faults
  /-- The time, which stands still during a step. -/
  clock : Timestamp
  /-- How many creations were asked for. -/
  creations : Nat
  /-- The pass is cancelled. -/
  cancelled : Bool
  /-- The call that cancels the pass. -/
  tripwire : Option Tripwire

/-- **A call comes in**: it may cancel the pass.  Tells whether it comes back. -/
def Ground.arrive (g : Ground) (kind : CallKind) : Bool × Ground :=
  match g.tripwire with
  | some t =>
    if t.kind = kind then
      if t.nth = 1 then (!t.hang, { g with cancelled := true, tripwire := none })
      else (true, { g with tripwire := some { t with nth := t.nth - 1 } })
    else (true, g)
  | none => (true, g)

/-- Asking for a task. -/
def get (ns name : String) : StateM Ground (Option (Except StoreError Task)) := fun g =>
  let (returns, g) := g.arrive .get
  if returns then
    match g.faults.get.find? name with
    | some f => (some (.error (f.error ns name)), g)
    | none =>
      let (answer, store) := g.store.get ⟨ns, name⟩
      (some answer, { g with store })
  else (none, g)

/-- **The task as the store sees it**, under the name that a fault gives it. -/
def Faults.renamed (f : Faults) (t : Task) : Task :=
  match f.create.find? t.spec.definition with
  | some (.rename name) => { t with name }
  | _ => t

/-- Creating a task. -/
def create (t : Task) : StateM Ground (Option (Except StoreError Task)) := fun g =>
  let (returns, g) := { g with creations := g.creations + 1 }.arrive .create
  if returns then
    match g.faults.create.find? t.spec.definition with
    | some (.fail f) => (some (.error (f.error t.ns t.name)), g)
    | _ =>
      let (answer, store) := g.store.create (g.faults.renamed t)
      (some answer, { g with store })
  else (none, g)

/-- Resolving a definition. -/
def resolve (name ns : String) : Act Ground (Option (Except ResolveError TaskDefinition)) :=
  fun g =>
  let (returns, g) := g.arrive .resolve
  if returns then
    match g.faults.resolve.find? name with
    | some .notFound => ((some (.error (.notFound ns name)), []), g)
    | some (.lookup text) => ((some (.error (.lookup text)), []), g)
    | none => ((some (g.registry.resolve name ns), g.registry.resolveNotes name ns), g)
  else ((none, []), g)

/-- **The backend on the bench.**  The random number for a name is the number of the creation. -/
def backend : Backend Ground where
  isCancelled g := (g.cancelled, g)
  get ns name := Act.silent (get ns name)
  create t := Act.silent (create t)
  resolve := resolve
  now g := (g.clock, g)
  draw g := (g.creations + 1, g)

/-! ## The observer -/

/-- **What watches, on the bench.**  A text for an operation makes it fail. -/
structure Gallery where
  /-- The spans. -/
  spans : SpanRegistry
  /-- The sink of the events. -/
  channel : EventSink Ring
  /-- Opening a span fails. -/
  openFault : Option String
  /-- Asking for a span or a new one fails. -/
  getOrOpenFault : Option String
  /-- Looking for a span finds none. -/
  lookupFault : Option String
  /-- Giving up a span fails. -/
  unbindFault : Option String
  /-- Announcing an event fails. -/
  sinkFault : Option EventError

/-- Bind a span, unless that is told to fail. -/
def bindSpan (fault : Gallery → Option String) (notes : SpanRegistry → SpanKey → List Log.Record)
    (k : SpanKey) (parent : Context) (attributes : List Trace.Attribute) :
    Act Gallery (Except SpanBindingError Context) := fun g =>
  match fault g with
  | some text => ((.error (.rejected k.text text), []), g)
  | none =>
    let (c, spans) := g.spans.bind k parent attributes
    ((.ok c, notes g.spans k), { g with spans })

/-- Look for a span. -/
def lookupSpan (k : SpanKey) : Act Gallery (Option Context) := fun g =>
  ((if g.lookupFault.isSome then none else g.spans.lookup k, []), g)

/-- Give up a span. -/
def unbindSpan (k : SpanKey) : Act Gallery (Except SpanBindingError Unit) := fun g =>
  match g.unbindFault with
  | some text => ((.error (.rejected k.text text), []), g)
  | none => ((.ok (), g.spans.unbindNotes k), { g with spans := g.spans.unbind k })

/-- Announce an event. -/
def emit (event : PhaseEvent) : Act Gallery (Except EventError Unit) := fun g =>
  match g.sinkFault with
  | some err => ((.error err, []), g)
  | none =>
    let (answer, channel) := g.channel.emit event
    (answer, { g with channel })

/-- Change the tracer. -/
def onTracer (f : Trace.Tracer → Trace.Tracer) : StateM Gallery Unit := fun g =>
  ((), { g with spans := { g.spans with tracer := f g.spans.tracer } })

/-- **The observer on the bench.** -/
def observer : Observer Gallery where
  openSpan := bindSpan (·.openFault) SpanRegistry.openNotes
  getOrOpen := bindSpan (·.getOrOpenFault) SpanRegistry.bindNotes
  lookup := lookupSpan
  unbind := unbindSpan
  addEvent c e := onTracer (·.addEvent c e)
  setStatus c s := onTracer (·.setStatus c s)
  finish c := onTracer (·.finish c)
  emit := emit

/-- **The engine on the bench.** -/
def engine : Engine Ground Gallery := ⟨backend, observer⟩

end Bench

end DeployChecks
