import DeployChecks.Keyed
import DeployChecks.Log.Record
import DeployChecks.Task
import DeployChecks.Trace.Tracer

/-!
# SpanRegistry — the open spans of tasks

The span of a task is opened when the task is created and ended in a later pass.  Until then it is
bound to the key of the task.  Main definitions: `SpanKey`, `SpanRegistry` with `bind`, `lookup`,
`unbind`.
-/

namespace DeployChecks

open Trace (Context Tracer)

/-- **What a span is bound to.** -/
structure SpanKey where
  /-- The kind of the resource. -/
  kind : String
  /-- The namespace of the resource. -/
  ns : String
  /-- The name of the resource. -/
  name : String
  /-- Which of several spans of the resource. -/
  label : String
  deriving DecidableEq, Repr

namespace SpanKey

/-- A key as text. -/
def text (k : SpanKey) : String := s!"{k.kind}/{k.ns}/{k.name}.{k.label}"

/-- The kind of tasks. -/
def taskKind : String := "KeptnTask"

/-- **The key of a task.** -/
def forTask (ns name : String) : SpanKey := ⟨taskKind, ns, name, ""⟩

end SpanKey

/-- The key of the span of a task. -/
def Task.spanKey (t : Task) : SpanKey := .forTask t.ns t.name

/-- **The named values of the span of a task.** -/
def Task.spanAttributes (t : Task) : List Trace.Attribute :=
  [("keptn.deployment.task.name", t.name), ("keptn.deployment.task.namespace", t.ns),
    ("keptn.deployment.task.definition", t.spec.definition),
    ("keptn.deployment.task.type", t.spec.checkType.tag),
    ("keptn.deployment.app.name", t.spec.context.appName),
    ("keptn.deployment.app.version", t.spec.context.appVersion),
    ("keptn.deployment.workload.name", t.spec.context.workloadName),
    ("keptn.deployment.workload.version", t.spec.context.workloadVersion)]

/-- **Why a span is not bound or unbound.** -/
inductive SpanBindingError where
  /-- The key is refused. -/
  | rejected (key text : String)
  deriving DecidableEq, Repr

/-- The wording of an error. -/
def SpanBindingError.message : SpanBindingError → String
  | rejected key text => s!"span binding for {key} rejected: {text}"

/-- **Spans under their keys.** -/
structure SpanRegistry where
  /-- What records the spans. -/
  tracer : Tracer
  /-- The contexts inside the bound spans. -/
  bound : Keyed SpanKey Context

namespace SpanRegistry

/-- The registry without spans. -/
def empty (tracer : Tracer) : SpanRegistry := ⟨tracer, {}⟩

/-- The name of a task's span. -/
def spanName : String := "create_task"

/-- The number of bound spans. -/
def size (r : SpanRegistry) : Nat := r.bound.size

/-- No span is bound. -/
def isEmpty (r : SpanRegistry) : Bool := r.size == 0

/-- A span is bound to the key. -/
def isBound (r : SpanRegistry) (k : SpanKey) : Bool := r.bound.contains k

/-- **The span bound to a key.** -/
def lookup (r : SpanRegistry) (k : SpanKey) : Option Context := r.bound.find? k

/-- **The span bound to a key, or a new one**, started in the parent context. -/
def bind (r : SpanRegistry) (k : SpanKey) (parent : Context) (attributes : List Trace.Attribute) :
    Context × SpanRegistry :=
  match r.lookup k with
  | some c => (c, r)
  | none =>
    let (c, tracer) := r.tracer.start spanName .consumer parent attributes
    (c, ⟨tracer, r.bound.insert k c⟩)

/-- **Remove a binding.**  Nobody else holds the span, so it ends now if it has not before. -/
def unbind (r : SpanRegistry) (k : SpanKey) : SpanRegistry :=
  match r.lookup k with
  | some c => ⟨r.tracer.finish c, r.bound.erase k⟩
  | none => r

/-- **Give up all bindings**, and keep the tracer. -/
def release (r : SpanRegistry) : Tracer := r.bound.values.foldl Tracer.finish r.tracer

/-- The registry as it is shown on inspection. -/
def inspect (r : SpanRegistry) : String := s!"SpanRegistry \x7b bound_spans: {r.size} \x7d"

/-! ## Log records -/

/-- The records of binding: one if a span is started. -/
def bindNotes (r : SpanRegistry) (k : SpanKey) : List Log.Record :=
  if r.isBound k then [] else [Log.debug "Binding new span" [("span_key", .shown k.text)]]

/-- The records of opening: a remark if a span is bound already. -/
def openNotes (r : SpanRegistry) (k : SpanKey) : List Log.Record :=
  (if r.isBound k then [Log.debug "Span already bound, reusing it" [("span_key", .shown k.text)]]
    else []) ++ r.bindNotes k

/-- The records of unbinding: one if a span was bound. -/
def unbindNotes (r : SpanRegistry) (k : SpanKey) : List Log.Record :=
  if r.isBound k then [Log.debug "Unbound span" [("span_key", .shown k.text)]] else []

end SpanRegistry

end DeployChecks
