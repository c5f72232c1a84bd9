import DeployChecks.Proofs.Engine.Scene

/-!
# Proofs/Engine/Course — what can happen in a pass

A visit branches on what the backend answers.  `Creation` and `Course` list the branches of one
visit, each with the answers that lead into it, the result and the scene it leaves; a **turn** is a
visit together with the announcement after it, and a pass is a sequence of turns that may be cut
short.  Every property of passes is proved from these.  Main statements: `visit_course`,
`reconcile_ending`.
-/

namespace DeployChecks

/-- A new task for a definition, in a pass. -/
def Pass.stamp (p : Pass) (d : TaskDefinition) (draw : Nat) : Task :=
  d.stamp p.group p.item p.context.inject draw

/-- Why a definition that is not resolved is left for the next pass. -/
def ResolveError.skipReason (err : ResolveError) : SkipReason :=
  if err.isNotFound then .definitionNotFound else .definitionLookupFailed err.message

/-- The error of a pass that stops at a definition. -/
def Interruption.passError (definition : String) (statuses : List ItemStatus) :
    Interruption → PassError
  | fetch task source => .fetch definition task source statuses
  | cancelled => .cancelled definition statuses

@[simp] theorem Interruption.partialStatuses_passError (definition : String)
    (statuses : List ItemStatus) (i : Interruption) :
    (i.passError definition statuses).partialStatuses = statuses := by cases i <;> rfl

/-- For a live entry, a finished task is seen finished for the first time. -/
theorem ItemStatus.completes_of_live {x : ItemStatus} (live : x.isTerminal = false)
    (state : TaskState) : state.completes (some x.state) = state.isTerminal := by
  rw [TaskState.completes, show (some x.state).any TaskState.isTerminal = false from live,
    Bool.not_false, Bool.and_true]

/-- What an outcome adds to the definitions that are left for the next pass. -/
def Outcome.skip? : Outcome → Option SkippedItem
  | skipped x reason => some ⟨x.definition, reason⟩
  | unchanged _ | created _ | refreshed _ _ => none

namespace Reconciliation

@[simp] theorem statuses_record (r : Reconciliation) (o : Outcome) :
    (r.record o).statuses = r.statuses ++ [o.status] := by
  cases o with
  | refreshed s completed => cases completed <;> rfl
  | _ => rfl

theorem statuses_foldl_record : ∀ (os : List Outcome) (r : Reconciliation),
    (os.foldl record r).statuses = r.statuses ++ os.map (·.status)
  | [], r => by simp
  | o :: os, r => by
    rw [List.foldl_cons, statuses_foldl_record os, statuses_record]
    simp

/-- The definitions that are left are listed in the order of the outcomes. -/
theorem skipped_foldl_record : ∀ (os : List Outcome) (r : Reconciliation),
    (os.foldl record r).skipped = r.skipped ++ os.filterMap Outcome.skip?
  | [], r => by simp
  | o :: os, r => by
    rw [List.foldl_cons, skipped_foldl_record os]
    cases o with
    | refreshed x completed => cases completed <;> rfl
    | skipped => simp [record, Outcome.skip?]
    | _ => rfl

@[simp] theorem statuses_summarized (r : Reconciliation) : r.summarized.statuses = r.statuses := rfl

end Reconciliation

namespace Scene

variable {σ τ : Type}

/-- The task of an entry is asked for. -/
def fetch (s : Scene σ τ) (e : Engine σ τ) (p : Pass) (status : ItemStatus) :
    Option (Except StoreError Task) × Scene σ τ :=
  s.ask e (.get p.item.ns status.task) (e.backend.get p.item.ns status.task)

/-- The definition of an entry is resolved. -/
def resolve (s : Scene σ τ) (e : Engine σ τ) (p : Pass) (status : ItemStatus) :
    Option (Except ResolveError TaskDefinition) × Scene σ τ :=
  s.ask e (.resolve status.definition p.item.ns) (e.backend.resolve status.definition p.item.ns)

/-- A task is put into the store. -/
def put (s : Scene σ τ) (e : Engine σ τ) (t : Task) : Option (Except StoreError Task) × Scene σ τ :=
  s.ask e (.create t) (e.backend.create t)

/-- It is announced that a task could not be created. -/
def refused (s : Scene σ τ) (e : Engine σ τ) (p : Pass) (status : ItemStatus) : Scene σ τ :=
  s.announce e p .createTask .warning PhaseEvent.failed
    (Pass.createFailedMessage status.definition)

end Scene

namespace Engine

variable {σ τ : Type}

/-! ## One visit -/

/-- **How creating a task can go.** -/
inductive Creation (e : Engine σ τ) (p : Pass) (status : ItemStatus) (s : Scene σ τ) :
    Except Interruption Outcome → Scene σ τ → Prop
  /-- The resolution has no answer. -/
  | unanswered {s₁ : Scene σ τ} (resolved : s.resolve e p status = (none, s₁)) :
    Creation e p status s (.error .cancelled) s₁
  /-- There is no definition to go by. -/
  | unresolved {s₁ : Scene σ τ} {err : ResolveError}
      (resolved : s.resolve e p status = (some (.error err), s₁)) :
    Creation e p status s (.ok (.skipped status err.skipReason)) s₁
  /-- The creation has no answer. -/
  | dropped {s₁ s₂ s₃ : Scene σ τ} {d : TaskDefinition} {draw : Nat}
      (resolved : s.resolve e p status = (some (.ok d), s₁))
      (drawn : s₁.sample e.backend.draw = (draw, s₂))
      (put : s₂.put e (p.stamp d draw) = (none, s₃)) :
    Creation e p status s (.error .cancelled) s₃
  /-- The store refuses the task. -/
  | refused {s₁ s₂ s₃ : Scene σ τ} {d : TaskDefinition} {draw : Nat} {err : StoreError}
      (resolved : s.resolve e p status = (some (.ok d), s₁))
      (drawn : s₁.sample e.backend.draw = (draw, s₂))
      (put : s₂.put e (p.stamp d draw) = (some (.error err), s₃)) :
    Creation e p status s (.ok (.skipped status (.creationFailed err.message)))
      (s₃.refused e p status)
  /-- The task is created. -/
  | created {s₁ s₂ s₃ : Scene σ τ} {d : TaskDefinition} {draw : Nat} {t : Task}
      (resolved : s.resolve e p status = (some (.ok d), s₁))
      (drawn : s₁.sample e.backend.draw = (draw, s₂))
      (put : s₂.put e (p.stamp d draw) = (some (.ok t), s₃)) :
    Creation e p status s (.ok (s₃.welcome e p t status).1) (s₃.welcome e p t status).2

/-- **How a visit can go.** -/
inductive Course (e : Engine σ τ) (p : Pass) (status : ItemStatus) (s : Scene σ τ) :
    Except Interruption Outcome → Scene σ τ → Prop
  /-- The entry is finished. -/
  | finished (terminal : status.isTerminal = true) : Course e p status s (.ok (.unchanged status)) s
  /-- Asking for the task has no answer. -/
  | unanswered {s₁ : Scene σ τ} (live : status.isTerminal = false) (task : status.hasTask = true)
      (fetched : s.fetch e p status = (none, s₁)) :
    Course e p status s (.error .cancelled) s₁
  /-- The task cannot be read. -/
  | unread {s₁ : Scene σ τ} {err : StoreError} (live : status.isTerminal = false)
      (task : status.hasTask = true) (fetched : s.fetch e p status = (some (.error err), s₁))
      (failure : err.isNotFound = false) :
    Course e p status s (.error (.fetch status.task err)) s₁
  /-- The task is read back. -/
  | read {s₁ : Scene σ τ} {t : Task} (live : status.isTerminal = false)
      (task : status.hasTask = true) (fetched : s.fetch e p status = (some (.ok t), s₁)) :
    Course e p status s (.ok (s₁.refresh e p t status).1) (s₁.refresh e p t status).2
  /-- The task is lost and a replacement is due. -/
  | lost {s₁ s₂ : Scene σ τ} {err : StoreError} {result : Except Interruption Outcome}
      (live : status.isTerminal = false) (task : status.hasTask = true)
      (fetched : s.fetch e p status = (some (.error err), s₁)) (gone : err.isNotFound = true)
      (creation : Creation e p status.withoutTask (s₁.lose e p.item.ns status.task) result s₂) :
    Course e p status s result s₂
  /-- There is no task yet. -/
  | bare {s₁ : Scene σ τ} {result : Except Interruption Outcome}
      (live : status.isTerminal = false) (bare : status.hasTask = false)
      (creation : Creation e p status s result s₁) :
    Course e p status s result s₁

variable (e : Engine σ τ) (p : Pass)

theorem unresolved_fst (err : ResolveError) (status : ItemStatus) (w : World σ τ) :
    (unresolved p err status w).1 = .skipped status err.skipReason := by
  unfold unresolved ResolveError.skipReason
  split <;> rfl

theorem scene_unresolved (err : ResolveError) (status : ItemStatus) (w : World σ τ) :
    (unresolved p err status w).2.scene = w.scene := by
  unfold unresolved
  split <;> simp [Run.map_apply]

theorem createFailed_fst (task : String) (err : StoreError) (status : ItemStatus)
    (w : World σ τ) :
    (e.createFailed p task err status w).1 = .skipped status (.creationFailed err.message) := rfl

theorem scene_createFailed (task : String) (err : StoreError) (status : ItemStatus)
    (w : World σ τ) :
    (e.createFailed p task err status w).2.scene = w.scene.refused e p status := by
  simp [createFailed, Scene.refused, Run.bind_apply, Run.map_apply]

/-- A guarded call, with the world it leaves. -/
theorem exists_guarded {α : Type} (c : Call) (x : Act σ (Option α)) (w : World σ τ) :
    ∃ (answer : Option α) (w₁ : World σ τ),
      e.guarded c x w = (answer, w₁) ∧ w.scene.ask e c x = (answer, w₁.scene) :=
  ⟨_, _, rfl, (e.guarded_eq c x w).symm⟩

/-- **Creating a task goes one of the listed ways.** -/
theorem create_creation (status : ItemStatus) (w : World σ τ) :
    Creation e p status w.scene (e.create p status w).1 (e.create p status w).2.scene := by
  obtain ⟨answer, w₁, run, resolved⟩ := e.exists_guarded (.resolve status.definition p.item.ns)
    (e.backend.resolve status.definition p.item.ns) w
  unfold create
  rw [Run.bind_apply, run]
  match answer, resolved with
  | none, resolved => exact .unanswered resolved
  | some (.error err), resolved =>
    simp only [Run.bind_apply, Run.pure_apply, unresolved_fst, scene_unresolved]
    exact .unresolved resolved
  | some (.ok d), resolved =>
    have drawn : w₁.scene.sample e.backend.draw
        = ((Run.sample e.backend.draw w₁).1, (Run.sample e.backend.draw w₁).2.scene) := rfl
    dsimp only
    rw [Run.bind_apply]
    generalize Run.sample e.backend.draw w₁ = r at drawn
    obtain ⟨draw, w₂⟩ := r
    obtain ⟨answer, w₃, run, put⟩ := e.exists_guarded (.create (p.stamp d draw))
      (e.backend.create (p.stamp d draw)) w₂
    rw [Run.bind_apply, show e.guarded (.create (d.stamp p.group p.item p.context.inject draw))
      (e.backend.create (d.stamp p.group p.item p.context.inject draw)) w₂ = (answer, w₃) from run]
    match answer, put with
    | none, put => exact .dropped resolved drawn put
    | some (.error err), put =>
      simp only [Run.bind_apply, Run.pure_apply, createFailed_fst, scene_createFailed]
      exact .refused resolved drawn put
    | some (.ok t), put =>
      simp only [Run.bind_apply, Run.pure_apply, welcome_fst, scene_welcome]
      exact .created resolved drawn put

/-- **A visit goes one of the listed ways.** -/
theorem visit_course (status : ItemStatus) (w : World σ τ) :
    Course e p status w.scene (e.visit p status w).1 (e.visit p status w).2.scene := by
  unfold visit
  split
  · next terminal => exact .finished terminal
  next live =>
  rw [Bool.not_eq_true] at live
  split
  · next task =>
    obtain ⟨answer, w₁, run, fetched⟩ := e.exists_guarded (.get p.item.ns status.task)
      (e.backend.get p.item.ns status.task) w
    rw [Run.bind_apply, run]
    match answer, fetched with
    | none, fetched => exact .unanswered live task fetched
    | some (.ok t), fetched =>
      simp only [Run.bind_apply, Run.pure_apply, refresh_fst, scene_refresh]
      exact .read live task fetched
    | some (.error err), fetched =>
      dsimp only
      split
      · next gone =>
        refine .lost live task fetched gone ?_
        have creation := e.create_creation p status.withoutTask
          (e.closeVanished p.item.ns status.task (Run.note (Log.info
            "Task vanished, creating a replacement" [("definition", .shown status.definition),
              ("task", .shown status.task), ("namespace", .shown p.item.ns)]) w₁).2).2
        rw [scene_closeVanished, Run.scene_note] at creation
        exact creation
      · next failure =>
        exact .unread live task fetched (by simpa using failure)
  · next bare =>
    exact .bare live (by simpa using bare) (e.create_creation p status w)

/-! ## One turn -/

/-- **How a turn can go**: a look at the token, the visit of a definition, and the announcement of
its state. -/
inductive Turn (e : Engine σ τ) (p : Pass) (prior : List ItemStatus) (definition : String)
    (s : Scene σ τ) : Except Interruption Outcome → Scene σ τ → Prop
  /-- The token is cancelled before the visit. -/
  | stopped {s₁ : Scene σ τ} (look : s.look e = (true, s₁)) :
    Turn e p prior definition s (.error .cancelled) s₁
  /-- The visit stops the pass. -/
  | interrupted {s₁ s₂ : Scene σ τ} {i : Interruption} (look : s.look e = (false, s₁))
      (course : Course e p (statusOrFresh definition prior) s₁ (.error i) s₂) :
    Turn e p prior definition s (.error i) s₂
  /-- The visit has an outcome. -/
  | done {s₁ s₂ : Scene σ τ} {o : Outcome} (look : s.look e = (false, s₁))
      (course : Course e p (statusOrFresh definition prior) s₁ (.ok o) s₂) :
    Turn e p prior definition s (.ok o)
      (s₂.announceChange e p definition ((findStatus definition prior).map (·.state))
        o.status.state)

/-- **One turn of a pass**: the definition, unless the token is cancelled, and the announcement of
its state. -/
def turn (e : Engine σ τ) (p : Pass) (prior : List ItemStatus) (definition : String) :
    Run σ τ (Except Interruption Outcome) := do
  match ← e.visitUnlessCancelled p (statusOrFresh definition prior) with
  | .ok outcome =>
    e.announceChange p definition ((findStatus definition prior).map (·.state))
      outcome.status.state
    return .ok outcome
  | .error i => return .error i

/-- **A turn goes one of the listed ways.** -/
theorem turn_turn (prior : List ItemStatus) (definition : String) (w : World σ τ) :
    Turn e p prior definition w.scene (e.turn p prior definition w).1
      (e.turn p prior definition w).2.scene := by
  unfold turn visitUnlessCancelled
  rw [Run.bind_apply, Run.bind_apply, isCancelled_fst]
  split
  · next cancelled => exact .stopped (Prod.ext cancelled rfl)
  next look =>
  have look : w.scene.look e = (false, (e.isCancelled w).2.scene) :=
    Prod.ext (by simpa using look) rfl
  have course := e.visit_course p (statusOrFresh definition prior) (e.isCancelled w).2
  generalize e.visit p (statusOrFresh definition prior) (e.isCancelled w).2 = r at course
  obtain ⟨result, w₁⟩ := r
  match result, course with
  | .error i, course => exact .interrupted look course
  | .ok o, course =>
    simp only [Run.bind_apply, Run.pure_apply, scene_announceChange]
    exact .done look course

/-- **Turns one after the other**, each with an outcome. -/
inductive Turns (e : Engine σ τ) (p : Pass) (prior : List ItemStatus) :
    List String → Scene σ τ → List Outcome → Scene σ τ → Prop
  /-- No definition. -/
  | nil {s : Scene σ τ} : Turns e p prior [] s [] s
  /-- One more definition in front. -/
  | cons {definition : String} {rest : List String} {s s₁ s₂ : Scene σ τ} {o : Outcome}
      {os : List Outcome} (turn : Turn e p prior definition s (.ok o) s₁)
      (turns : Turns e p prior rest s₁ os s₂) :
    Turns e p prior (definition :: rest) s (o :: os) s₂

/-- **How a pass can end**: after all its turns, or at a turn that stops it. -/
inductive Ending (e : Engine σ τ) (p : Pass) (prior : List ItemStatus) (r : Reconciliation)
    (definitions : List String) (s : Scene σ τ) :
    Except PassError Reconciliation → Scene σ τ → Prop
  /-- Every definition had its turn. -/
  | complete {os : List Outcome} {s₁ : Scene σ τ} (turns : Turns e p prior definitions s os s₁) :
    Ending e p prior r definitions s (.ok (os.foldl Reconciliation.record r).summarized) s₁
  /-- A turn stops the pass. -/
  | cut {before : List String} {definition : String} {after : List String} {os : List Outcome}
      {s₁ s₂ : Scene σ τ} {i : Interruption} (split : definitions = before ++ definition :: after)
      (turns : Turns e p prior before s os s₁)
      (turn : Turn e p prior definition s₁ (.error i) s₂) :
    Ending e p prior r definitions s
      (.error (i.passError definition
        (r.statuses ++ os.map (·.status) ++ (definition :: after).map (statusOrFresh · prior))))
      s₂

theorem interrupted_fst (definition : String) (i : Interruption) (statuses : List ItemStatus)
    (w : World σ τ) :
    (interrupted p definition i statuses w).1 = i.passError definition statuses := by
  cases i <;> rfl

theorem scene_interrupted (definition : String) (i : Interruption) (statuses : List ItemStatus)
    (w : World σ τ) : (interrupted p definition i statuses w).2.scene = w.scene := by
  cases i <;> simp [interrupted, Run.map_apply]

/-- A pass that goes on after a turn. -/
theorem Ending.cons {prior : List ItemStatus} {r : Reconciliation} {definition : String}
    {rest : List String} {s s₁ s₂ : Scene σ τ} {o : Outcome}
    {result : Except PassError Reconciliation} (turn : Turn e p prior definition s (.ok o) s₁)
    (ending : Ending e p prior (r.record o) rest s₁ result s₂) :
    Ending e p prior r (definition :: rest) s result s₂ := by
  cases ending with
  | complete turns => exact .complete (.cons turn turns)
  | @cut before d after os _ _ i split turns stop =>
    subst split
    have cut : Ending e p prior r (definition :: before ++ d :: after) s _ s₂ :=
      .cut rfl (.cons turn turns) stop
    simpa using cut

/-- A pass that stops at its first turn. -/
theorem Ending.stop {prior : List ItemStatus} {r : Reconciliation} {definition : String}
    {rest : List String} {s s₁ : Scene σ τ} {i : Interruption}
    (turn : Turn e p prior definition s (.error i) s₁) :
    Ending e p prior r (definition :: rest) s
      (.error (i.passError definition
        (r.statuses ++ (definition :: rest).map (statusOrFresh · prior)))) s₁ := by
  have cut : Ending e p prior r ([] ++ definition :: rest) s _ s₁ := .cut rfl .nil turn
  simpa using cut

/-- After a turn with an outcome the pass goes on; otherwise it stops. -/
theorem visitAll_cons (prior : List ItemStatus) (r : Reconciliation) (definition : String)
    (rest : List String) (w : World σ τ) :
    e.visitAll p prior r (definition :: rest) w =
      match e.turn p prior definition w with
      | (.ok o, w₁) => e.visitAll p prior (r.record o) rest w₁
      | (.error i, w₁) =>
        (Except.error <$> interrupted p definition i
          (r.statuses ++ (definition :: rest).map (statusOrFresh · prior))) w₁ := by
  rw [visitAll, turn, Run.bind_apply, Run.bind_apply]
  cases (e.visitUnlessCancelled p (statusOrFresh definition prior) w).1 <;> rfl

/-- **One turn after the other** goes one of the listed ways. -/
theorem visitAll_ending (prior : List ItemStatus) :
    ∀ (definitions : List String) (r : Reconciliation) (w : World σ τ),
      Ending e p prior r definitions w.scene (e.visitAll p prior r definitions w).1
        (e.visitAll p prior r definitions w).2.scene
  | [], r, w => by
    have complete : Ending e p prior r [] w.scene _ w.scene := .complete .nil
    simpa [visitAll, Run.map_apply] using complete
  | definition :: rest, r, w => by
    have turn := e.turn_turn p prior definition w
    rw [visitAll_cons]
    generalize e.turn p prior definition w = t at turn
    match t, turn with
    | (.ok o, w₁), turn => exact .cons e p turn (visitAll_ending prior rest (r.record o) w₁)
    | (.error i, w₁), turn =>
      simp only [Run.map_apply, interrupted_fst, scene_interrupted]
      exact .stop e p turn

/-- **A pass goes one of the listed ways.** -/
theorem reconcile_ending (w : World σ τ) :
    Ending e p (p.item.statuses p.group) .empty (p.item.declared p.group) w.scene
      (e.reconcile p w).1 (e.reconcile p w).2.scene :=
  e.visitAll_ending p _ _ _ w

end Engine

end DeployChecks
