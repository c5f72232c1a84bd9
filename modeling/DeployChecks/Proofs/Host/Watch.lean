import DeployChecks.Proofs.Host.Entries

/-!
# Proofs/Host/Watch — passes watched by a registry of spans

The observer is a registry of spans; whatever takes the events has a state of its own and may do
with them what it likes.  Main definitions: `Watch`, `Watch.observer`, `unboundKeys`; main
statements: which keys are bound after each action (`isBound_lose`, `isBound_refresh`,
`isBound_welcome`).
-/

namespace DeployChecks

open Trace (Context SpanEvent SpanStatus Tracer)

/-- **A registry of spans**, and whatever takes the events. -/
structure Watch (ε : Type) where
  /-- The spans. -/
  spans : SpanRegistry
  /-- What takes the events. -/
  sink : ε

namespace Watch

variable {ε : Type}

/-- Change the tracer. -/
def onTracer (f : Tracer → Tracer) : StateM (Watch ε) Unit := fun v =>
  ((), { v with spans := { v.spans with tracer := f v.spans.tracer } })

/-- The span of a key, or a new one. -/
def bind (notes : SpanRegistry → SpanKey → List Log.Record) (k : SpanKey) (parent : Context)
    (attributes : List Trace.Attribute) : Act (Watch ε) (Except SpanBindingError Context) :=
  fun v =>
    let (c, spans) := v.spans.bind k parent attributes
    ((.ok c, notes v.spans k), { v with spans })

/-- **The observer that keeps spans in a registry.** -/
def observer (emit : PhaseEvent → Act ε (Except EventError Unit)) : Observer (Watch ε) where
  openSpan := bind SpanRegistry.openNotes
  getOrOpen := bind SpanRegistry.bindNotes
  lookup k := fun v => ((v.spans.lookup k, []), v)
  unbind k := fun v => ((.ok (), v.spans.unbindNotes k), { v with spans := v.spans.unbind k })
  addEvent c e := onTracer (·.addEvent c e)
  setStatus c s := onTracer (·.setStatus c s)
  finish c := onTracer (·.finish c)
  emit event := fun v => ((emit event v.sink).1, { v with sink := (emit event v.sink).2 })

end Watch

/-- **Passes that a registry watches.**  When the engine is restarted the registry is a new one, and
the spans that were bound are over. -/
def Setup.watched {ε : Type} (emit : PhaseEvent → Act ε (Except EventError Unit))
    (group : CheckGroup) : Setup (Watch ε) where
  observer := Watch.observer emit
  renew v := { v with spans := .empty v.spans.release }
  group := group

/-- The checks before the deployment, watched by a registry, with events that nobody takes. -/
def Sample.watched : Setup (Watch Unit) := .watched (fun _ => Act.silent (pure (.ok ()))) .pre

/-- A registry of spans that records everything. -/
def Sample.watch : Watch Unit :=
  ⟨.empty (.new ⟨fun n => n + 1, fun n => n + 1⟩ .always), ()⟩

/-! ## Watched entries and their keys -/

namespace ItemStatus

/-- **There is a task to be watched.** -/
def IsWatched (x : ItemStatus) : Prop := x.isTerminal = false ∧ x.hasTask = true

theorem not_isWatched_of_bare {x : ItemStatus} (bare : x.hasTask = false) : ¬ x.IsWatched := by
  rintro ⟨-, task⟩
  rw [bare] at task
  cases task

theorem not_isWatched_of_terminal {x : ItemStatus} (terminal : x.isTerminal = true) :
    ¬ x.IsWatched := by
  rintro ⟨live, -⟩
  rw [terminal] at live
  cases live

end ItemStatus

theorem SpanKey.forTask_inj {ns name name' : String} :
    forTask ns name = forTask ns name' ↔ name = name' :=
  ⟨congrArg SpanKey.name, congrArg (forTask ns)⟩

theorem Task.spanKey_of_key {t : Task} {ns name : String} (key : t.key = ⟨ns, name⟩) :
    t.spanKey = .forTask ns name := by
  rw [spanKey, show t.ns = ns from congrArg TaskKey.ns key,
    show t.name = name from congrArg TaskKey.name key]

/-! ## Bound keys -/

theorem Keyed.contains_eq {κ α : Type} [DecidableEq κ] (m : Keyed κ α) (k : κ) :
    m.contains k = (m.find? k).isSome := by
  rw [contains, find?, Option.isSome_map, List.isSome_find?]

namespace SpanRegistry

variable (r : SpanRegistry) (k k' : SpanKey)

theorem isBound_eq : r.isBound k = (r.lookup k).isSome := Keyed.contains_eq _ _

theorem isBound_bind (parent : Context) (attributes : List Trace.Attribute) :
    (r.bind k parent attributes).2.isBound k' = true ↔ k' = k ∨ r.isBound k' = true := by
  simp only [isBound_eq, bind]
  split
  · next found =>
    constructor
    · exact Or.inr
    · rintro (rfl | bound)
      · rw [found]; rfl
      · exact bound
  · rw [lookup, Keyed.find?_insert]
    split
    · next same => simp [same]
    · next other => simp [other, lookup]

theorem isBound_unbind : (r.unbind k).isBound k' = true ↔ k' ≠ k ∧ r.isBound k' = true := by
  simp only [isBound_eq, unbind]
  split
  · rw [lookup, Keyed.find?_erase]
    split
    · next same => simp [same]
    · next other => simp [other, lookup]
  · next missing =>
    constructor
    · intro bound
      refine ⟨?_, bound⟩
      rintro rfl
      rw [missing] at bound
      cases bound
    · exact And.right

theorem isBound_of_isEmpty (h : r.isEmpty = true) : ¬ r.isBound k = true := by
  rw [isEmpty, size, Keyed.size, beq_iff_eq, List.length_eq_zero_iff] at h
  simp [isBound, Keyed.contains, h]

end SpanRegistry

/-- **The keys that were unbound**, in order. -/
def unboundKeys (calls : List Call) : List SpanKey :=
  calls.filterMap fun
    | .unbind k => some k
    | _ => none

/-! ## What an action does to the keys -/

/-- The engine over the memory, watched by a registry. -/
abbrev Watch.engine {ε : Type} (c : Chance) (emit : PhaseEvent → Act ε (Except EventError Unit)) :
    Engine Memory (Watch ε) := Memory.engine c (Watch.observer emit)

namespace Scene

variable {ε : Type} {s s₁ : Scene Memory (Watch ε)} {c : Chance} {p : Pass}
  {emit : PhaseEvent → Act ε (Except EventError Unit)}

/-- A key has its span bound. -/
def IsBound (s : Scene Memory (Watch ε)) (k : SpanKey) : Prop := s.observer.spans.isBound k = true

theorem isBound_of_observer (same : s₁.observer = s.observer) (k : SpanKey) :
    s₁.IsBound k ↔ s.IsBound k := by
  rw [IsBound, IsBound, same]

variable (s) (k : SpanKey)

theorem isBound_announce (phase : Phase) (severity : Severity) (reason message : String) :
    (s.announce (Watch.engine c emit) p phase severity reason message).IsBound k ↔ s.IsBound k :=
  Iff.rfl

theorem isBound_announceChange (definition : String) (previous : Option TaskState)
    (current : TaskState) :
    (s.announceChange (Watch.engine c emit) p definition previous current).IsBound k
      ↔ s.IsBound k := by
  unfold announceChange
  split
  · exact Iff.rfl
  · exact s.isBound_announce k _ _ _ _

/-- Closing a span concerns the tracer alone. -/
theorem bound_close (key : SpanKey) (context : Context) (events : List SpanEvent)
    (status : SpanStatus) :
    (s.close (Watch.engine c emit) key context events status).observer.spans.bound
      = s.observer.spans.bound := by
  have added : ∀ (events : List SpanEvent) (v : Watch ε),
      (events.foldl (fun v event => ((Watch.observer emit).addEvent context event v).2)
        v).spans.bound = v.spans.bound := by
    intro events
    induction events with
    | nil => exact fun _ => rfl
    | cons event rest ih => exact fun v => ih _
  exact added events s.observer

theorem isBound_close (key : SpanKey) (context : Context) (events : List SpanEvent)
    (status : SpanStatus) :
    (s.close (Watch.engine c emit) key context events status).IsBound k ↔ s.IsBound k := by
  rw [IsBound, IsBound, SpanRegistry.isBound, bound_close]
  rfl

theorem isBound_unbind (key : SpanKey) :
    (s.unbind (Watch.engine c emit) key).IsBound k ↔ k ≠ key ∧ s.IsBound k :=
  s.observer.spans.isBound_unbind key k

theorem isBound_span (t : Task) :
    (s.span (Watch.engine c emit) p t).2.IsBound k ↔ k = t.spanKey ∨ s.IsBound k :=
  s.observer.spans.isBound_bind t.spanKey k p.context t.spanAttributes

theorem isBound_settle (t : Task) :
    (s.settle (Watch.engine c emit) p t).IsBound k ↔ k ≠ t.spanKey ∧ s.IsBound k := by
  rw [settle, isBound_unbind, isBound_close, isBound_span]
  exact and_congr_right fun other => or_iff_right other

/-- **After a task is lost**, its key is free. -/
theorem isBound_lose (ns task : String) :
    (s.lose (Watch.engine c emit) ns task).IsBound k ↔ k ≠ .forTask ns task ∧ s.IsBound k := by
  rw [lose, isBound_unbind]
  split
  · rw [isBound_close]
    rfl
  · rfl

/-- **After a task is read back**, its key is bound, unless it is finished. -/
theorem isBound_refresh (t : Task) (status : ItemStatus) :
    (s.refresh (Watch.engine c emit) p t status).2.IsBound k
      ↔ if t.state.completes (some status.state) then k ≠ t.spanKey ∧ s.IsBound k
        else k = t.spanKey ∨ s.IsBound k := by
  unfold refresh
  split
  · exact s.isBound_settle k t
  · exact s.isBound_span k t

/-- **After a task is created**, its key is bound. -/
theorem isBound_welcome (t : Task) (status : ItemStatus) :
    (s.welcome (Watch.engine c emit) p t status).2.IsBound k ↔ k = t.spanKey ∨ s.IsBound k :=
  s.observer.spans.isBound_bind t.spanKey k p.context t.spanAttributes

/-! ## Which keys an action unbinds -/

variable {s} {σ τ : Type} {z z₁ : Scene σ τ} {e : Engine σ τ}

theorem unboundKeys_fetch {status : ItemStatus} {answer : Option (Except StoreError Task)}
    (fetched : z.fetch e p status = (answer, z₁)) :
    unboundKeys z₁.calls = unboundKeys z.calls := by
  obtain h | h := z.calls_ask e fetched <;> simp [h, unboundKeys]

theorem unboundKeys_resolve {status : ItemStatus}
    {answer : Option (Except ResolveError TaskDefinition)}
    (resolved : z.resolve e p status = (answer, z₁)) :
    unboundKeys z₁.calls = unboundKeys z.calls := by
  obtain h | h := z.calls_ask e resolved <;> simp [h, unboundKeys]

theorem unboundKeys_put {t : Task} {answer : Option (Except StoreError Task)}
    (put : z.put e t = (answer, z₁)) : unboundKeys z₁.calls = unboundKeys z.calls := by
  obtain h | h := z.calls_ask e put <;> simp [h, unboundKeys]

/-- What leads to a creation tells the observer nothing, and unbinds nothing. -/
theorem quiet_stamped {z₂ z₃ : Scene σ τ} {status : ItemStatus} {d : TaskDefinition} {draw : Nat}
    {resolution : Option (Except ResolveError TaskDefinition)}
    {answer : Option (Except StoreError Task)} (resolved : z.resolve e p status = (resolution, z₁))
    (drawn : z₁.sample e.backend.draw = (draw, z₂))
    (put : z₂.put e (p.stamp d draw) = (answer, z₃)) :
    z₃.observer = z.observer ∧ unboundKeys z₃.calls = unboundKeys z.calls := by
  have asked : z₁.observer = z.observer := z.observer_ask e resolved
  obtain rfl := congrArg Prod.snd drawn
  constructor
  · exact ((z₁.sample e.backend.draw).2.observer_ask e put).trans asked
  · rw [unboundKeys_put put, calls_sample, unboundKeys_resolve resolved]

variable (z)

@[simp] theorem unboundKeys_lose (ns task : String) :
    unboundKeys (z.lose e ns task).calls = unboundKeys z.calls ++ [.forTask ns task] := by
  rw [calls_lose]
  cases (e.observer.lookup (.forTask ns task) z.observer).1.1 <;> simp [unboundKeys]

@[simp] theorem unboundKeys_refresh (t : Task) (status : ItemStatus) :
    unboundKeys (z.refresh e p t status).2.calls = unboundKeys z.calls ++
      if t.state.completes (some status.state) then [t.spanKey] else [] := by
  rw [calls_refresh]
  split <;> simp [unboundKeys]

@[simp] theorem unboundKeys_welcome (t : Task) (status : ItemStatus) :
    unboundKeys (z.welcome e p t status).2.calls = unboundKeys z.calls := by
  simp [unboundKeys]

@[simp] theorem unboundKeys_refused (status : ItemStatus) :
    unboundKeys (z.refused e p status).calls = unboundKeys z.calls := by
  simp [refused, unboundKeys]

@[simp] theorem unboundKeys_announceChange (definition : String) (previous : Option TaskState)
    (current : TaskState) :
    unboundKeys (z.announceChange e p definition previous current).calls
      = unboundKeys z.calls := by
  unfold announceChange
  split <;> simp [unboundKeys]

end Scene

namespace Engine

variable {σ τ : Type} {e : Engine σ τ} {p : Pass} {s s' : Scene σ τ}

/-- A creation that stops the pass tells the observer nothing, and unbinds nothing. -/
theorem Creation.quiet_of_error {status : ItemStatus} {i : Interruption}
    (creation : Creation e p status s (.error i) s') :
    s'.observer = s.observer ∧ unboundKeys s'.calls = unboundKeys s.calls := by
  cases creation with
  | unanswered resolved => exact ⟨s.observer_ask _ resolved, Scene.unboundKeys_resolve resolved⟩
  | dropped resolved drawn put => exact Scene.quiet_stamped resolved drawn put

end Engine

end DeployChecks
