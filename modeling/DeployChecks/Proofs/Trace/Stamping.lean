import DeployChecks.Proofs.Definitions.History
import DeployChecks.Proofs.Tasks.Names
import DeployChecks.Proofs.Trace.Headers

/-!
# Proofs/Trace/Stamping — the trace goes on in a new task

A new task is stamped with the headers of the context in which it is made, over the metadata of
its item.  So its metadata leads back to the span of that context, whatever the item says; and
nothing else of the task depends on the context.  Main statement: `new_tasks_carry_the_trace`.
-/

namespace DeployChecks

open Trace (Context)

namespace Trace

/-- **A span of another program goes on** from a span here. -/
structure SpanContext.Continues (here there : SpanContext) : Prop where
  /-- It is a span. -/
  valid : there.isValid = true
  /-- It comes from another program. -/
  remote : there.remote = true
  /-- The trace is the same. -/
  traceId : there.traceId = here.traceId
  /-- So is the identity in it. -/
  spanId : there.spanId = here.spanId
  /-- It is recorded if the span here is. -/
  sampled : there.sampled = here.sampled
  /-- It has the vendor entries, if they can be written so that they are read back. -/
  state : here.state.IsReadable → there.state = here.state

namespace Context

variable {c : Context} {item headers : StringMap String}

/-- **Headers of a span hide what stood under their names**: with them over other entries, that
span is read. -/
theorem extract_of_injected (valid : c.spanContext.isValid = true)
    (merged : ∀ k, headers.find? k = (c.inject.find? k).or (item.find? k)) :
    ∃ s, (extract headers).span = some ⟨s, none⟩ ∧ c.spanContext.Continues s := by
  -- both headers of the span are written, so none of the other entries is read in their place
  have parent : headers.find? traceparentHeader = some (traceparent c.spanContext) := by
    rw [merged, find?_inject, if_pos rfl, if_pos valid, Option.some_or]
  have entries : headers.find? tracestateHeader = some c.spanContext.state.header := by
    rw [merged, find?_inject, if_neg (by decide), if_pos rfl, if_pos valid, Option.some_or]
  let state := (TraceState.read? c.spanContext.state.header).getD .empty
  refine ⟨⟨c.spanContext.traceId, c.spanContext.spanId, c.spanContext.sampled, true, state⟩, ?_,
    valid, rfl, rfl, rfl, rfl, fun readable => ?_⟩
  · simp only [extract, parent, entries, Option.bind_some]
    rw [readTraceparent?_traceparent valid]
    rfl
  · exact congrArg (·.getD .empty) (TraceState.read?_header readable)

/-- Without a span no header of one is written. -/
theorem find?_inject_of_invalid (bare : c.spanContext.isValid = false) :
    c.inject.find? traceparentHeader = none := by
  rw [find?_inject, if_pos rfl, bare]
  rfl

end Context

end Trace

/-- The task with another name and other metadata. -/
def Task.relabeled (t : Task) (name : String) (metadata : StringMap String) : Task :=
  { t with name, spec := { t.spec with context := { t.spec.context with metadata } } }

/-- **A task carries the trace** of the context in which it was made. -/
structure Task.CarriesTrace (p : Pass) (d : TaskDefinition) (draw : Nat) (t : Task) : Prop where
  /-- The metadata has what the context writes, and the rest from the item. -/
  metadata : ∀ k, t.spec.context.metadata.find? k
    = (p.context.inject.find? k).or (p.item.metadata.find? k)
  /-- A span of the context goes on where the metadata is read, whatever the item holds. -/
  continued : p.context.spanContext.isValid = true →
    ∃ s, (Context.extract t.spec.context.metadata).span = some ⟨s, none⟩ ∧
      p.context.spanContext.Continues s
  /-- A context without a span writes no header of one. -/
  bare : p.context.spanContext.isValid = false →
    p.context.inject.find? Context.traceparentHeader = none
  /-- The name depends on the group, the definition and the draw, which gives its digits. -/
  name : t.name = Task.stem p.group d.name ++ toString (Task.suffixOf draw)
  /-- All else is the same for every context and every draw. -/
  rest : ∀ context draw',
    (d.stamp p.group p.item (Context.inject context) draw').relabeled t.name
      t.spec.context.metadata = t

/-- A stamped task is written over the metadata of the item, key by key. -/
theorem Pass.carriesTrace_stamp (p : Pass) (d : TaskDefinition) (draw : Nat) :
    (p.stamp d draw).CarriesTrace p d draw := by
  have merged : ∀ k, (p.item.metadata.union p.context.inject).find? k
      = (p.context.inject.find? k).or (p.item.metadata.find? k) := StringMap.find?_union _ _
  exact
    { metadata := merged
      continued := fun valid => Context.extract_of_injected valid merged
      bare := Context.find?_inject_of_invalid
      name := Task.nameFor_eq p.group d.name draw
      rest := fun _ _ => rfl }

/-- **New tasks carry the trace**: every task that is stamped from the headers of the context, and
every task that a pass puts into the store. -/
theorem new_tasks_carry_the_trace (p : Pass) :
    (∀ (d : TaskDefinition) (draw : Nat),
        (d.stamp p.group p.item p.context.inject draw).CarriesTrace p d draw) ∧
      ∀ {τ : Type} (chance : Chance) (o : Observer τ) (w : World Memory τ) (k : TaskKey) (t : Task),
        ((Memory.engine chance o).reconcile p w).2.backend.store.peek k = some t →
          w.backend.store.peek k = some t ∨ ∃ d draw, t.CarriesTrace p d draw := by
  refine ⟨p.carriesTrace_stamp, fun chance o w k t found => ?_⟩
  have stamps := (Engine.reconcile_ending (Memory.engine chance o) p w).stamps
  obtain old | ⟨-, -, d, draw, -, rfl⟩ := stamps.stamped k t found
  · exact .inl old
  · exact .inr ⟨d, draw, p.carriesTrace_stamp d draw⟩

namespace Sample

/-- A span with an entry. -/
def span : Trace.SpanContext := ⟨0x4bf92f3577b34da6#128, 0xf067aa0ba902b7#64, true, false,
  ⟨[("vendor", "1")]⟩⟩

/-- An item whose metadata holds the headers of another span. -/
def strayItem : PhaseItem :=
  .app { AppVersion.bare "shop" "prod" "1" "u1" with
    spec := ⟨"shop", "1", ["smoke"], [],
      .ofList [(Context.traceparentHeader, Context.traceparent ⟨7, 7, false, false, .empty⟩),
        (Context.tracestateHeader, "stray=1")]⟩ }

end Sample

/-- The span that the metadata of the item names is not the one that goes on. -/
theorem new_tasks_carry_the_trace_past_the_item :
    let p : Pass := ⟨⟨some ⟨Sample.span, none⟩, {}⟩, Sample.strayItem, .pre⟩
    let t := (Sample.definition "smoke").stamp p.group p.item p.context.inject 3
    (Context.extract p.item.metadata).spanContext.traceId = 7 ∧
      ∃ s, (Context.extract t.spec.context.metadata).span = some ⟨s, none⟩ ∧
        s.traceId = 0x4bf92f3577b34da6#128 ∧ s.state = ⟨[("vendor", "1")]⟩ := by
  intro p t
  have stray : (Context.extract p.item.metadata).spanContext.traceId = 7 := by decide +kernel
  have readable : Sample.span.state.IsReadable := by
    intro e mem
    obtain rfl := List.mem_singleton.1 mem
    decide +kernel
  obtain ⟨s, found, continues⟩ :=
    ((new_tasks_carry_the_trace p).1 (Sample.definition "smoke") 3).continued (by decide)
  exact ⟨stray, s, found, continues.traceId, continues.state readable⟩

end DeployChecks
