import DeployChecks.Engine.Pass

/-!
# Proofs/Engine/Scene — a world without its log

Nothing that is logged comes back to a pass: its answers, its calls and both states after it follow
from both states before it.  A **scene** is a world whose journal has been reduced to the calls.
Main definitions: `Scene`, `World.scene`; main statements: for each action that is no branch point,
what it answers and the scene it leaves (`refresh_eq`, `scene_closeVanished`, `welcome_eq`, …).
-/

namespace DeployChecks

open Trace (Context SpanEvent SpanStatus)

/-- **A world without its log.** -/
structure Scene (σ τ : Type) where
  /-- The state of what decides. -/
  backend : σ
  /-- The state of what watches. -/
  observer : τ
  /-- The calls so far, in order. -/
  calls : List Call

/-- The world without its log. -/
def World.scene {σ τ : Type} (w : World σ τ) : Scene σ τ :=
  ⟨w.backend, w.observer, w.journal.filterMap Entry.call?⟩

namespace Scene

variable {σ τ α : Type}

/-! ## Single steps -/

/-- Something of the backend that is no call. -/
def sample (s : Scene σ τ) (x : StateM σ α) : α × Scene σ τ :=
  ((x s.backend).1, { s with backend := (x s.backend).2 })

/-- A call to the backend. -/
def decide (s : Scene σ τ) (c : Call) (x : Act σ α) : α × Scene σ τ :=
  ((x s.backend).1.1, ⟨(x s.backend).2, s.observer, s.calls ++ [c]⟩)

/-- A call to the observer. -/
def watch (s : Scene σ τ) (c : Call) (x : Act τ α) : α × Scene σ τ :=
  ((x s.observer).1.1, ⟨s.backend, (x s.observer).2, s.calls ++ [c]⟩)

/-- A look at the token. -/
def look (s : Scene σ τ) (e : Engine σ τ) : Bool × Scene σ τ := s.sample e.backend.isCancelled

/-- **A call that the token cancels.** -/
def ask (s : Scene σ τ) (e : Engine σ τ) (c : Call) (x : Act σ (Option α)) :
    Option α × Scene σ τ :=
  if (s.look e).1 then (none, (s.look e).2) else (s.look e).2.decide c x

/-! ## What the observer is told -/

/-- An event is announced. -/
def tell (s : Scene σ τ) (e : Engine σ τ) (event : PhaseEvent) : Scene σ τ :=
  (s.watch (.emit event) (e.observer.emit event)).2

/-- Something about the item of a pass is announced. -/
def announce (s : Scene σ τ) (e : Engine σ τ) (p : Pass) (phase : Phase) (severity : Severity)
    (reason message : String) : Scene σ τ :=
  (s.sample e.backend.now).2.tell e
    (.about p.item phase severity reason message (s.sample e.backend.now).1)

/-- The state of a definition is announced, if it is another than before. -/
def announceChange (s : Scene σ τ) (e : Engine σ τ) (p : Pass) (definition : String)
    (previous : Option TaskState) (current : TaskState) : Scene σ τ :=
  if previous = some current then s
  else s.announce e p .reconcileTask .normal PhaseEvent.statusChanged
    (Pass.changeMessage definition previous current)

/-- A span is given up. -/
def unbind (s : Scene σ τ) (e : Engine σ τ) (key : SpanKey) : Scene σ τ :=
  (s.watch (.unbind key) (e.observer.unbind key)).2

/-- A span is closed. -/
def close (s : Scene σ τ) (e : Engine σ τ) (key : SpanKey) (context : Context)
    (events : List SpanEvent) (status : SpanStatus) : Scene σ τ where
  backend := s.backend
  observer :=
    let v := events.foldl (fun v event => (e.observer.addEvent context event v).2) s.observer
    (e.observer.finish context (e.observer.setStatus context status v).2).2
  calls := s.calls ++ [.close key events status]

/-- **The span of a lost task is closed** and given up. -/
def lose (s : Scene σ τ) (e : Engine σ τ) (ns task : String) : Scene σ τ :=
  let key := SpanKey.forTask ns task
  let r := s.watch (.lookup key) (e.observer.lookup key)
  (match r.1 with
    | some context => r.2.close e key context [Pass.vanishing task] (.error "Vanished")
    | none => r.2).unbind e key

/-- **The span of a task that was read back**, opened if there is none. -/
def span (s : Scene σ τ) (e : Engine σ τ) (p : Pass) (t : Task) : Context × Scene σ τ :=
  let r := s.watch (.getOrOpen t.spanKey)
    (e.observer.getOrOpen t.spanKey p.context t.spanAttributes)
  (match r.1 with | .ok context => context | .error _ => .empty, r.2)

/-- The span of a finished task is closed and given up. -/
def settle (s : Scene σ τ) (e : Engine σ τ) (p : Pass) (t : Task) : Scene σ τ :=
  let r := s.span e p t
  (r.2.close e t.spanKey r.1 (Pass.closing t).1 (Pass.closing t).2).unbind e t.spanKey

/-- **A task is read back**: the outcome and the scene after it. -/
def refresh (s : Scene σ τ) (e : Engine σ τ) (p : Pass) (t : Task) (status : ItemStatus) :
    Outcome × Scene σ τ :=
  let seen := { status with state := t.state }
  if t.state.completes (some status.state) then
    let r := (s.settle e p t).sample e.backend.now
    (.refreshed (seen.ended r.1) true, (r.2.sample e.backend.now).2)
  else (.refreshed seen false, (s.span e p t).2)

/-- **A task was created**: the outcome and the scene after it. -/
def welcome (s : Scene σ τ) (e : Engine σ τ) (p : Pass) (t : Task) (status : ItemStatus) :
    Outcome × Scene σ τ :=
  let r := s.sample e.backend.now
  let opened := r.2.watch (.openSpan t.spanKey)
    (e.observer.openSpan t.spanKey p.context t.spanAttributes)
  (.created ({ status with task := t.name }.started r.1), (opened.2.sample e.backend.now).2)

end Scene

/-! ## The entry of a task that was read back -/

namespace Scene

variable {σ τ : Type} {s : Scene σ τ} {e : Engine σ τ} {p : Pass}

/-- A task that is read back stays the task of its entry. -/
@[simp] theorem task_refresh (t : Task) (status : ItemStatus) :
    (s.refresh e p t status).1.status.task = status.task := by
  unfold refresh
  dsimp only
  split <;> rfl

/-- The state of the entry is that of the task. -/
@[simp] theorem state_refresh (t : Task) (status : ItemStatus) :
    (s.refresh e p t status).1.status.state = t.state := by
  unfold refresh
  dsimp only
  split <;> rfl

end Scene

/-! ## What is called

Each action adds calls of its own to those made so far; none takes one back. -/

namespace Scene

variable {σ τ α : Type} (s : Scene σ τ) (e : Engine σ τ) (p : Pass)

@[simp] theorem calls_sample (x : StateM σ α) : (s.sample x).2.calls = s.calls := rfl

@[simp] theorem calls_look : (s.look e).2.calls = s.calls := rfl

@[simp] theorem calls_tell (event : PhaseEvent) :
    (s.tell e event).calls = s.calls ++ [.emit event] := rfl

@[simp] theorem calls_announce (phase : Phase) (severity : Severity) (reason message : String) :
    (s.announce e p phase severity reason message).calls = s.calls ++
      [.emit (.about p.item phase severity reason message (s.sample e.backend.now).1)] := rfl

@[simp] theorem calls_unbind (key : SpanKey) :
    (s.unbind e key).calls = s.calls ++ [.unbind key] := rfl

@[simp] theorem calls_close (key : SpanKey) (context : Context) (events : List SpanEvent)
    (status : SpanStatus) :
    (s.close e key context events status).calls = s.calls ++ [.close key events status] := rfl

/-- The calls about the span of a lost task. -/
theorem calls_lose (ns task : String) :
    (s.lose e ns task).calls = s.calls ++ .lookup (.forTask ns task) ::
      ((e.observer.lookup (.forTask ns task) s.observer).1.1.elim []
        (fun _ => [.close (.forTask ns task) [Pass.vanishing task] (.error "Vanished")])
        ++ [.unbind (.forTask ns task)]) := by
  cases found : (e.observer.lookup (.forTask ns task) s.observer).1.1 <;>
    simp [lose, watch, found]

@[simp] theorem calls_span (t : Task) :
    (s.span e p t).2.calls = s.calls ++ [.getOrOpen t.spanKey] := rfl

@[simp] theorem calls_settle (t : Task) :
    (s.settle e p t).calls = s.calls ++ [.getOrOpen t.spanKey,
      .close t.spanKey (Pass.closing t).1 (Pass.closing t).2, .unbind t.spanKey] := by
  simp [settle]

/-- The calls about a task that was read back. -/
theorem calls_refresh (t : Task) (status : ItemStatus) :
    (s.refresh e p t status).2.calls = s.calls ++ .getOrOpen t.spanKey ::
      if t.state.completes (some status.state) then
        [.close t.spanKey (Pass.closing t).1 (Pass.closing t).2, .unbind t.spanKey]
      else [] := by
  unfold refresh
  split <;> simp

@[simp] theorem calls_welcome (t : Task) (status : ItemStatus) :
    (s.welcome e p t status).2.calls = s.calls ++ [.openSpan t.spanKey] := rfl

/-- A call that the token cancels is made or not. -/
theorem ask_cases {c : Call} {x : Act σ (Option α)} {answer : Option α} {s₁ : Scene σ τ}
    (asked : s.ask e c x = (answer, s₁)) :
    (answer = none ∧ s₁ = (s.look e).2) ∨ (s.look e).2.decide c x = (answer, s₁) := by
  unfold ask at asked
  split at asked
  · exact .inl ⟨(congrArg Prod.fst asked).symm, (congrArg Prod.snd asked).symm⟩
  · exact .inr asked

/-- Asking adds at most the call that is asked. -/
theorem calls_ask {c : Call} {x : Act σ (Option α)} {answer : Option α} {s₁ : Scene σ τ}
    (asked : s.ask e c x = (answer, s₁)) :
    s₁.calls = s.calls ∨ s₁.calls = s.calls ++ [c] := by
  obtain ⟨-, rfl⟩ | asked := s.ask_cases e asked
  · exact .inl rfl
  · exact .inr (congrArg (fun r => r.2.calls) asked).symm

/-- Asking tells the observer nothing. -/
theorem observer_ask {c : Call} {x : Act σ (Option α)} {answer : Option α} {s₁ : Scene σ τ}
    (asked : s.ask e c x = (answer, s₁)) : s₁.observer = s.observer := by
  obtain ⟨-, rfl⟩ | asked := s.ask_cases e asked
  · rfl
  · exact (congrArg (fun r => r.2.observer) asked).symm

/-- Losing a task concerns the observer alone. -/
@[simp] theorem backend_lose (ns task : String) : (s.lose e ns task).backend = s.backend := by
  cases found : (e.observer.lookup (.forTask ns task) s.observer).1.1 <;>
    simp [lose, watch, found, unbind, close]

end Scene

/-! ## Actions on the scene -/

namespace Run

variable {σ τ α β : Type}

theorem bind_apply (x : Run σ τ α) (f : α → Run σ τ β) (w : World σ τ) :
    (x >>= f) w = f (x w).1 (x w).2 := rfl

theorem map_apply (f : α → β) (x : Run σ τ α) (w : World σ τ) :
    (f <$> x) w = (f (x w).1, (x w).2) := rfl

theorem pure_apply (a : α) (w : World σ τ) : (pure a : Run σ τ α) w = (a, w) := rfl

@[simp] theorem note_fst (r : Log.Record) (w : World σ τ) : (note r w).1 = () := rfl

@[simp] theorem scene_note (r : Log.Record) (w : World σ τ) : (note r w).2.scene = w.scene := by
  simp [note, write, World.scene, Entry.call?]

@[simp] theorem scene_write_call (c : Call) (w : World σ τ) :
    (write (.call c) w).2.scene = { w.scene with calls := w.scene.calls ++ [c] } := by
  simp [write, World.scene, Entry.call?]

@[simp] theorem decide_fst (c : Call) (x : Act σ α) (w : World σ τ) :
    (decide c x w).1 = (w.scene.decide c x).1 := rfl

@[simp] theorem scene_decide (c : Call) (x : Act σ α) (w : World σ τ) :
    (decide c x w).2.scene = (w.scene.decide c x).2 := by
  simp [decide, World.scene, Scene.decide, Entry.call?, List.filterMap_map, Function.comp_def]

@[simp] theorem watch_fst (c : Call) (x : Act τ α) (w : World σ τ) :
    (watch c x w).1 = (w.scene.watch c x).1 := rfl

@[simp] theorem scene_watch (c : Call) (x : Act τ α) (w : World σ τ) :
    (watch c x w).2.scene = (w.scene.watch c x).2 := by
  simp [watch, World.scene, Scene.watch, Entry.call?, List.filterMap_map, Function.comp_def]

@[simp] theorem sample_fst (x : StateM σ α) (w : World σ τ) :
    (sample x w).1 = (w.scene.sample x).1 := rfl

@[simp] theorem scene_sample (x : StateM σ α) (w : World σ τ) :
    (sample x w).2.scene = (w.scene.sample x).2 := rfl

@[simp] theorem scene_mark (x : StateM τ Unit) (w : World σ τ) :
    (mark x w).2.scene = { w.scene with observer := (x w.scene.observer).2 } := rfl

end Run

namespace Engine

variable {σ τ α : Type} (e : Engine σ τ)

@[simp] theorem isCancelled_fst (w : World σ τ) : (e.isCancelled w).1 = (w.scene.look e).1 := rfl

@[simp] theorem scene_isCancelled (w : World σ τ) :
    (e.isCancelled w).2.scene = (w.scene.look e).2 := rfl

theorem guarded_eq (c : Call) (x : Act σ (Option α)) (w : World σ τ) :
    ((e.guarded c x w).1, (e.guarded c x w).2.scene) = w.scene.ask e c x := by
  unfold guarded Scene.ask
  rw [Run.bind_apply, isCancelled_fst]
  split <;> simp [Run.pure_apply]

@[simp] theorem guarded_fst (c : Call) (x : Act σ (Option α)) (w : World σ τ) :
    (e.guarded c x w).1 = (w.scene.ask e c x).1 := congrArg Prod.fst (e.guarded_eq c x w)

@[simp] theorem scene_guarded (c : Call) (x : Act σ (Option α)) (w : World σ τ) :
    (e.guarded c x w).2.scene = (w.scene.ask e c x).2 := congrArg Prod.snd (e.guarded_eq c x w)

@[simp] theorem scene_noteOperation (o : Log.TaskOperation) (w : World σ τ) :
    (e.noteOperation o w).2.scene = (w.scene.sample e.backend.now).2 := by
  simp [noteOperation, Run.bind_apply]

@[simp] theorem scene_emit (event : PhaseEvent) (w : World σ τ) :
    (e.emit event w).2.scene = w.scene.tell e event := by
  unfold emit Scene.tell
  rw [Run.bind_apply]
  generalize (Run.watch (.emit event) (e.observer.emit event) w).1 = answer
  cases answer <;> simp [Run.pure_apply]

@[simp] theorem scene_announce (p : Pass) (phase : Phase) (severity : Severity)
    (reason message : String) (w : World σ τ) :
    (e.announce p phase severity reason message w).2.scene
      = w.scene.announce e p phase severity reason message := by
  simp [announce, Scene.announce, Run.bind_apply]

@[simp] theorem scene_announceChange (p : Pass) (definition : String)
    (previous : Option TaskState) (current : TaskState) (w : World σ τ) :
    (e.announceChange p definition previous current w).2.scene
      = w.scene.announceChange e p definition previous current := by
  unfold announceChange Scene.announceChange
  split <;> simp [Run.pure_apply]

@[simp] theorem scene_unbindSpan (key : SpanKey) (task : String) (w : World σ τ) :
    (e.unbindSpan key task w).2.scene = w.scene.unbind e key := by
  unfold unbindSpan Scene.unbind
  rw [Run.bind_apply]
  generalize (Run.watch (.unbind key) (e.observer.unbind key) w).1 = answer
  cases answer <;> simp [Run.pure_apply]

theorem taskSpan_eq (p : Pass) (t : Task) (w : World σ τ) :
    ((e.taskSpan p t w).1, (e.taskSpan p t w).2.scene) = w.scene.span e p t := by
  unfold taskSpan Scene.span
  rw [Run.bind_apply, Run.watch_fst]
  cases h : (w.scene.watch (.getOrOpen t.spanKey)
    (e.observer.getOrOpen t.spanKey p.context t.spanAttributes)).1 <;>
    simp [h, Run.bind_apply, Run.pure_apply]

@[simp] theorem taskSpan_fst (p : Pass) (t : Task) (w : World σ τ) :
    (e.taskSpan p t w).1 = (w.scene.span e p t).1 := congrArg Prod.fst (e.taskSpan_eq p t w)

@[simp] theorem scene_taskSpan (p : Pass) (t : Task) (w : World σ τ) :
    (e.taskSpan p t w).2.scene = (w.scene.span e p t).2 := congrArg Prod.snd (e.taskSpan_eq p t w)

theorem scene_addEvents (context : Context) : ∀ (events : List SpanEvent) (w : World σ τ),
    (e.addEvents context events w).2.scene
      = { w.scene with
          observer := events.foldl (fun v event => (e.observer.addEvent context event v).2)
            w.scene.observer }
  | [], _ => rfl
  | event :: rest, w => by
    rw [addEvents, Run.bind_apply, scene_addEvents context rest]
    simp

@[simp] theorem scene_closeSpan (key : SpanKey) (context : Context) (events : List SpanEvent)
    (status : SpanStatus) (w : World σ τ) :
    (e.closeSpan key context events status w).2.scene
      = w.scene.close e key context events status := by
  simp [closeSpan, Scene.close, Run.bind_apply, scene_addEvents]

@[simp] theorem scene_closeVanished (ns task : String) (w : World σ τ) :
    (e.closeVanished ns task w).2.scene = w.scene.lose e ns task := by
  unfold closeVanished Scene.lose
  dsimp only
  rw [Run.bind_apply, Run.watch_fst]
  cases (w.scene.watch (.lookup (.forTask ns task))
    (e.observer.lookup (.forTask ns task))).1 <;> simp [Run.bind_apply]

/-- **What reading a task back leaves.** -/
theorem refresh_eq (p : Pass) (t : Task) (status : ItemStatus) (w : World σ τ) :
    ((e.refresh p t status w).1, (e.refresh p t status w).2.scene)
      = w.scene.refresh e p t status := by
  unfold refresh Scene.refresh
  rw [Run.bind_apply]
  split <;> simp [Scene.settle, Run.bind_apply, Run.map_apply, Run.pure_apply]

@[simp] theorem refresh_fst (p : Pass) (t : Task) (status : ItemStatus) (w : World σ τ) :
    (e.refresh p t status w).1 = (w.scene.refresh e p t status).1 :=
  congrArg Prod.fst (e.refresh_eq p t status w)

@[simp] theorem scene_refresh (p : Pass) (t : Task) (status : ItemStatus) (w : World σ τ) :
    (e.refresh p t status w).2.scene = (w.scene.refresh e p t status).2 :=
  congrArg Prod.snd (e.refresh_eq p t status w)

/-- **What a new task leaves.** -/
theorem welcome_eq (p : Pass) (t : Task) (status : ItemStatus) (w : World σ τ) :
    ((e.welcome p t status w).1, (e.welcome p t status w).2.scene)
      = w.scene.welcome e p t status := by
  unfold welcome Scene.welcome
  dsimp only
  rw [Run.bind_apply, Run.bind_apply]
  generalize (Run.watch (.openSpan t.spanKey) _ (Run.sample e.backend.now w).2).1 = answer
  cases answer <;> simp [Run.bind_apply, Run.map_apply, Run.pure_apply]

@[simp] theorem welcome_fst (p : Pass) (t : Task) (status : ItemStatus) (w : World σ τ) :
    (e.welcome p t status w).1 = (w.scene.welcome e p t status).1 :=
  congrArg Prod.fst (e.welcome_eq p t status w)

@[simp] theorem scene_welcome (p : Pass) (t : Task) (status : ItemStatus) (w : World σ τ) :
    (e.welcome p t status w).2.scene = (w.scene.welcome e p t status).2 :=
  congrArg Prod.snd (e.welcome_eq p t status w)

end Engine

/-! ## A small item, and nobody who watches -/

/-- An observer that sees nothing. -/
def Observer.blind : Observer Unit where
  openSpan _ context _ := Act.silent (pure (.ok context))
  getOrOpen _ context _ := Act.silent (pure (.ok context))
  lookup _ := Act.silent (pure none)
  unbind _ := Act.silent (pure (.ok ()))
  addEvent _ _ := pure ()
  setStatus _ _ := pure ()
  finish _ := pure ()
  emit _ := Act.silent (pure (.ok ()))

namespace Sample

/-- An item that declares checks before the deployment. -/
def item (names : List String) : PhaseItem :=
  .app { AppVersion.bare "shop" "prod" "1" "u1" with spec := ⟨"shop", "1", names, [], {}⟩ }

/-- The definition of a check. -/
def definition (name : String) : TaskDefinition := ⟨name, "prod", .empty⟩

end Sample

end DeployChecks
