import DeployChecks.Proofs.Engine.Invariant

/-!
# Proofs/Engine/News — what a turn announces

A visit announces one thing at most: that a task could not be created.  The turn around it announces
the state of the definition, if it is another than before.  So the events of a turn can be told from
its outcome and the state before it, but for the times.  Main definitions: `emitted`, `told`,
`Outcome.news`; main statements: `Course.emitted`, `Turn.told`.
-/

namespace DeployChecks

/-- **The events that calls announce**, in order. -/
def emitted (calls : List Call) : List PhaseEvent :=
  calls.filterMap fun
    | .emit event => some event
    | _ => none

@[simp] theorem emitted_append (l l' : List Call) : emitted (l ++ l') = emitted l ++ emitted l' :=
  List.filterMap_append

/-- An event without its time. -/
def PhaseEvent.timeless (event : PhaseEvent) : PhaseEvent := { event with emittedAt := default }

/-- **What calls tell**: their events, but for the times. -/
def told (calls : List Call) : List PhaseEvent := (emitted calls).map (·.timeless)

@[simp] theorem told_append (l l' : List Call) : told (l ++ l') = told l ++ told l' := by
  simp [told]

theorem told_flatMap {α : Type} (l : List α) (f : α → List Call) :
    told (l.flatMap f) = l.flatMap fun a => told (f a) := by
  simp [told, emitted, List.filterMap_flatMap, List.map_flatMap]

namespace Outcome

variable (item : PhaseItem) (previous : Option TaskState) (now : Timestamp) (o : Outcome)

/-- The event of a task that could not be created. -/
def complaints : List PhaseEvent :=
  match o with
  | skipped x (.creationFailed _) =>
    [.about item .createTask .warning PhaseEvent.failed (Pass.createFailedMessage x.definition) now]
  | _ => []

/-- The event of a state that is another than before. -/
def changes : List PhaseEvent :=
  if previous = some o.status.state then []
  else [.about item .reconcileTask .normal PhaseEvent.statusChanged
    (Pass.changeMessage o.status.definition previous o.status.state) now]

/-- **The news of an outcome**, but for the times. -/
def news : List PhaseEvent := o.complaints item default ++ o.changes item previous default

theorem timeless_complaints :
    (o.complaints item now).map (·.timeless) = o.complaints item default := by
  unfold complaints
  split <;> rfl

theorem timeless_changes :
    (o.changes item previous now).map (·.timeless) = o.changes item previous default := by
  unfold changes
  split <;> rfl

end Outcome

namespace Scene

variable {σ τ α : Type} {s s₁ : Scene σ τ} {e : Engine σ τ} {p : Pass}

/-- What is asked of the backend announces nothing. -/
theorem emitted_ask {c : Call} {x : Act σ (Option α)} {answer : Option α}
    (asked : s.ask e c x = (answer, s₁)) (deciding : c.isDeciding = true) :
    emitted s₁.calls = emitted s.calls := by
  obtain h | h := s.calls_ask e asked
  · rw [h]
  · rw [h]
    cases c with
    | get | create | resolve => simp [emitted]
    | _ => cases deciding

theorem emitted_fetch {x : ItemStatus} {answer : Option (Except StoreError Task)}
    (fetched : s.fetch e p x = (answer, s₁)) : emitted s₁.calls = emitted s.calls :=
  emitted_ask fetched rfl

theorem emitted_resolve {x : ItemStatus} {answer : Option (Except ResolveError TaskDefinition)}
    (resolved : s.resolve e p x = (answer, s₁)) : emitted s₁.calls = emitted s.calls :=
  emitted_ask resolved rfl

theorem emitted_stamped {s₂ s₃ : Scene σ τ} {x : ItemStatus} {d : TaskDefinition} {draw : Nat}
    {answer : Option (Except StoreError Task)} (resolved : s.resolve e p x = (some (.ok d), s₁))
    (drawn : s₁.sample e.backend.draw = (draw, s₂))
    (put : s₂.put e (p.stamp d draw) = (answer, s₃)) : emitted s₃.calls = emitted s.calls := by
  obtain rfl := congrArg Prod.snd drawn
  exact (emitted_ask put rfl).trans
    (show emitted s₁.calls = emitted s.calls from emitted_resolve resolved)

/-- Spans announce nothing. -/
@[simp] theorem emitted_lose (ns task : String) :
    emitted (s.lose e ns task).calls = emitted s.calls := by
  rw [calls_lose]
  cases (e.observer.lookup (.forTask ns task) s.observer).1.1 <;> simp [emitted]

@[simp] theorem emitted_refresh (t : Task) (x : ItemStatus) :
    emitted (s.refresh e p t x).2.calls = emitted s.calls := by
  rw [calls_refresh]
  split <;> simp [emitted]

@[simp] theorem emitted_welcome (t : Task) (x : ItemStatus) :
    emitted (s.welcome e p t x).2.calls = emitted s.calls := by
  simp [emitted]

end Scene

namespace Engine

variable {σ τ : Type} {e : Engine σ τ} {p : Pass} {prior : List ItemStatus} {s s' : Scene σ τ}
  {x : ItemStatus} {o : Outcome}

/-- **A creation announces** at most that it failed. -/
theorem Creation.emitted (creation : Creation e p x s (.ok o) s') :
    ∃ now, DeployChecks.emitted s'.calls
      = DeployChecks.emitted s.calls ++ o.complaints p.item now := by
  cases creation with
  | @unresolved _ err resolved =>
    refine ⟨default, (Scene.emitted_resolve resolved).trans ?_⟩
    unfold ResolveError.skipReason
    split <;> simp [Outcome.complaints]
  | @refused _ _ s₃ _ _ _ resolved drawn put =>
    refine ⟨(s₃.sample e.backend.now).1, ?_⟩
    rw [← Scene.emitted_stamped resolved drawn put, Scene.refused, Scene.calls_announce,
      emitted_append]
    rfl
  | created resolved drawn put =>
    refine ⟨default, ?_⟩
    rw [Scene.emitted_welcome, Scene.emitted_stamped resolved drawn put]
    simp [Outcome.complaints, Scene.welcome]

theorem Creation.emitted_of_error {i : Interruption}
    (creation : Creation e p x s (.error i) s') :
    DeployChecks.emitted s'.calls = DeployChecks.emitted s.calls := by
  cases creation with
  | unanswered resolved => exact Scene.emitted_resolve resolved
  | dropped resolved drawn put => exact Scene.emitted_stamped resolved drawn put

/-- **A visit announces** at most that a task could not be created. -/
theorem Course.emitted (course : Course e p x s (.ok o) s') :
    ∃ now, DeployChecks.emitted s'.calls
      = DeployChecks.emitted s.calls ++ o.complaints p.item now := by
  cases course with
  | finished => exact ⟨default, by simp [Outcome.complaints]⟩
  | read _ _ fetched =>
    refine ⟨default, ?_⟩
    rw [Scene.emitted_refresh, Scene.emitted_fetch fetched]
    unfold Scene.refresh
    split <;> simp [Outcome.complaints]
  | lost _ _ fetched _ creation =>
    obtain ⟨now, told⟩ := creation.emitted
    rw [Scene.emitted_lose, Scene.emitted_fetch fetched] at told
    exact ⟨now, told⟩
  | bare _ _ creation => exact creation.emitted

theorem Course.emitted_of_error {i : Interruption} (course : Course e p x s (.error i) s') :
    DeployChecks.emitted s'.calls = DeployChecks.emitted s.calls := by
  cases course with
  | unanswered _ _ fetched | unread _ _ fetched => exact Scene.emitted_fetch fetched
  | lost _ _ fetched _ creation =>
    rw [creation.emitted_of_error, Scene.emitted_lose, Scene.emitted_fetch fetched]
  | bare _ _ creation => exact creation.emitted_of_error

/-- **A turn tells the news of its outcome.** -/
theorem Turn.told {definition : String} (turn : Turn e p prior definition s (.ok o) s') :
    DeployChecks.told s'.calls = DeployChecks.told s.calls ++
      o.news p.item ((findStatus definition prior).map (·.state)) := by
  have about := turn.definition
  cases turn with
  | @done s₁ s₂ _ look course =>
    obtain rfl := congrArg Prod.snd look
    obtain ⟨now, visited⟩ := course.emitted
    have changed : DeployChecks.emitted (s₂.announceChange e p definition
        ((findStatus definition prior).map (·.state)) o.status.state).calls
          = DeployChecks.emitted s₂.calls ++ o.changes p.item
            ((findStatus definition prior).map (·.state)) (s₂.sample e.backend.now).1 := by
      subst about
      unfold Scene.announceChange Outcome.changes
      split
      · rw [List.append_nil]
      · rw [Scene.calls_announce, emitted_append]
        rfl
    rw [DeployChecks.told, changed, visited, Scene.calls_look, DeployChecks.told, List.map_append,
      List.map_append, List.append_assoc, Outcome.timeless_complaints, Outcome.timeless_changes,
      Outcome.news]

end Engine

end DeployChecks
