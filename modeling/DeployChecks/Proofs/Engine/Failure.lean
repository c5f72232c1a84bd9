import DeployChecks.Proofs.Engine.Declared
import DeployChecks.Proofs.Engine.Invariant

/-!
# Proofs/Engine/Failure — when a pass fails, and what it hands over then

A pass fails at the first definition at which the token is seen cancelled, or the task cannot be
read for another reason than that there is none.  These are answers of the backend alone: `Halts`
lists them, from the state in which the definition's turn comes.  Nothing else makes a pass fail,
neither a definition that is not resolved, nor a task that is refused, nor any span or event.  What
a pass that fails hands over is the result of the pass over the names before, and then the entries
from before the pass.  Main definition: `Backend.Halts`; main statement: `fails_iff_halted`.
-/

namespace DeployChecks

/-! ## What stops a visit -/

namespace Backend

variable {σ α : Type} (b : Backend σ)

/-- A call that the token cancels, as the backend sees it. -/
def ask (x : Act σ (Option α)) : StateM σ (Option α) := fun s =>
  if (b.isCancelled s).1 then (none, (b.isCancelled s).2)
  else ((x (b.isCancelled s).2).1.1, (x (b.isCancelled s).2).2)

/-- **The task of an entry is asked for**: the token is not cancelled, and the entry is not finished
and names a task. -/
structure Asks (x : ItemStatus) (s s₁ : σ) : Prop where
  /-- The token is not cancelled. -/
  look : b.isCancelled s = (false, s₁)
  /-- The entry is not finished. -/
  live : x.isTerminal = false
  /-- It names a task. -/
  task : x.hasTask = true

/-- **A task is to be created for an entry**: it never had one, or it has lost it. -/
inductive Due (p : Pass) (x : ItemStatus) (s : σ) : σ → Prop
  /-- The entry names no task. -/
  | bare {s₁ : σ} (look : b.isCancelled s = (false, s₁)) (live : x.isTerminal = false)
      (bare : x.hasTask = false) : Due p x s s₁
  /-- There is no task of that name. -/
  | lost {s₁ s₂ : σ} {err : StoreError} (asks : b.Asks x s s₁)
      (fetched : b.ask (b.get p.item.ns x.task) s₁ = (some (.error err), s₂))
      (gone : err.isNotFound = true) : Due p x s s₂

/-- **What stops a visit of an entry**, and with it the pass. -/
inductive Halts (p : Pass) (x : ItemStatus) (s : σ) : Interruption → Prop
  /-- The token is cancelled before the visit. -/
  | before (cancelled : (b.isCancelled s).1 = true) : Halts p x s .cancelled
  /-- It is cancelled before the task is read. -/
  | reading {s₁ : σ} (asks : b.Asks x s s₁)
      (dropped : (b.ask (b.get p.item.ns x.task) s₁).1 = none) : Halts p x s .cancelled
  /-- The task cannot be read, and not because there is none. -/
  | unread {s₁ : σ} {err : StoreError} (asks : b.Asks x s s₁)
      (failed : (b.ask (b.get p.item.ns x.task) s₁).1 = some (.error err))
      (failure : err.isNotFound = false) : Halts p x s (.fetch x.task err)
  /-- The token is cancelled before the definition is resolved. -/
  | resolving {s₁ : σ} (due : b.Due p x s s₁)
      (dropped : (b.ask (b.resolve x.definition p.item.ns) s₁).1 = none) : Halts p x s .cancelled
  /-- It is cancelled before the task is created. -/
  | creating {s₁ s₂ : σ} {d : TaskDefinition} (due : b.Due p x s s₁)
      (resolved : b.ask (b.resolve x.definition p.item.ns) s₁ = (some (.ok d), s₂))
      (dropped : (b.ask (b.create (p.stamp d (b.draw s₂).1)) (b.draw s₂).2).1 = none) :
    Halts p x s .cancelled

end Backend

namespace Scene

variable {σ τ α : Type}

/-- What is asked, the backend answers. -/
theorem ask_fst (s : Scene σ τ) (e : Engine σ τ) (c : Call) (x : Act σ (Option α)) :
    (s.ask e c x).1 = (e.backend.ask x s.backend).1 := by
  unfold ask Backend.ask look sample
  dsimp only
  split <;> rfl

theorem backend_ask (s : Scene σ τ) (e : Engine σ τ) (c : Call) (x : Act σ (Option α)) :
    (s.ask e c x).2.backend = (e.backend.ask x s.backend).2 := by
  unfold ask Backend.ask look sample
  dsimp only
  split <;> rfl

end Scene

namespace Engine

variable {σ τ : Type} {e : Engine σ τ} {p : Pass} {prior : List ItemStatus}

/-! ## One way to go -/

theorem Creation.unique {x : ItemStatus} {s s₁ s₂ : Scene σ τ}
    {result result' : Except Interruption Outcome} (creation : Creation e p x s result s₁)
    (creation' : Creation e p x s result' s₂) : result = result' ∧ s₁ = s₂ := by
  cases creation <;> cases creation' <;> grind

theorem Course.unique {x : ItemStatus} {s s₁ s₂ : Scene σ τ}
    {result result' : Except Interruption Outcome} (course : Course e p x s result s₁)
    (course' : Course e p x s result' s₂) : result = result' ∧ s₁ = s₂ := by
  cases course <;> cases course' <;> grind [Creation.unique]

/-- **A turn can go one way only.** -/
theorem Turn.unique {definition : String} {s s₁ s₂ : Scene σ τ}
    {result result' : Except Interruption Outcome} (turn : Turn e p prior definition s result s₁)
    (turn' : Turn e p prior definition s result' s₂) : result = result' ∧ s₁ = s₂ := by
  cases turn <;> cases turn' <;> grind [Course.unique]

/-! ## What stops a turn -/

section

variable {x : ItemStatus} {s s₁ : Scene σ τ} {i : Interruption}

/-- What a guarded call answers, and the state of the backend after it, follow from the state of the
backend before it. -/
theorem backend_ask_eq {α : Type} {answer : Option α} {c : Call} {f : Act σ (Option α)}
    (asked : s.ask e c f = (answer, s₁)) :
    e.backend.ask f s.backend = (answer, s₁.backend) := by
  refine Prod.ext ?_ ?_
  · rw [← Scene.ask_fst s e c, asked]
  · rw [← Scene.backend_ask s e c, asked]

/-- A look at the token, as the backend sees it. -/
theorem backend_look_eq {cancelled : Bool} (look : s.look e = (cancelled, s₁)) :
    e.backend.isCancelled s.backend = (cancelled, s₁.backend) := by
  obtain ⟨rfl, rfl⟩ := Prod.mk.inj look
  rfl

/-- A creation that stops the pass does so in the resolution or in the creation itself. -/
theorem Creation.halts {s₀ : σ} {y : ItemStatus} (creation : Creation e p y s (.error i) s₁)
    (same : y.definition = x.definition) (due : e.backend.Due p x s₀ s.backend) :
    e.backend.Halts p x s₀ i := by
  cases creation with
  | unanswered resolved =>
    refine .resolving due ?_
    rw [← same]
    exact congrArg Prod.fst (backend_ask_eq resolved)
  | @dropped z₁ z₂ _ d draw resolved drawn put =>
    obtain ⟨rfl, rfl⟩ := Prod.mk.inj drawn
    refine .creating due ?_ (congrArg Prod.fst (backend_ask_eq put))
    rw [← same]
    exact backend_ask_eq resolved

/-- A turn that stops is halted. -/
theorem Turn.halts {definition : String}
    (turn : Turn e p prior definition s (.error i) s₁) :
    e.backend.Halts p (statusOrFresh definition prior) s.backend i := by
  cases turn with
  | stopped look => exact .before (congrArg Prod.fst (backend_look_eq look))
  | interrupted look course =>
    have look := backend_look_eq look
    cases course with
    | unanswered live task fetched =>
      exact .reading ⟨look, live, task⟩ (congrArg Prod.fst (backend_ask_eq fetched))
    | unread live task fetched failure =>
      exact .unread ⟨look, live, task⟩ (congrArg Prod.fst (backend_ask_eq fetched)) failure
    | lost live task fetched gone creation =>
      refine creation.halts rfl (.lost ⟨look, live, task⟩ ?_ gone)
      rw [Scene.backend_lose]
      exact backend_ask_eq fetched
    | bare live bare creation => exact creation.halts rfl (.bare look live bare)

/-- What the backend answers, a scene over it answers. -/
theorem exists_ask {α : Type} {answer : Option α} {f : Act σ (Option α)} {b b₁ : σ}
    (asked : e.backend.ask f b = (answer, b₁)) (c : Call) (same : s.backend = b) :
    ∃ s₁, s.ask e c f = (answer, s₁) ∧ s₁.backend = b₁ := by
  subst same
  refine ⟨(s.ask e c f).2, Prod.ext ?_ rfl, ?_⟩
  · rw [Scene.ask_fst, asked]
  · rw [Scene.backend_ask, asked]

theorem exists_look {cancelled : Bool} {b₁ : σ}
    (look : e.backend.isCancelled s.backend = (cancelled, b₁)) :
    ∃ s₁, s.look e = (cancelled, s₁) ∧ s₁.backend = b₁ :=
  ⟨(s.look e).2, Prod.ext (congrArg Prod.fst look :) rfl, congrArg Prod.snd look⟩

/-- If a task is due, the turn comes to its creation. -/
theorem exists_course_of_due {b : σ} (due : e.backend.Due p x s.backend b) :
    ∃ (y : ItemStatus) (z₁ z₂ : Scene σ τ), s.look e = (false, z₁) ∧ z₂.backend = b ∧
      y.definition = x.definition ∧
      ∀ result z₃, Creation e p y z₂ result z₃ → Course e p x z₁ result z₃ := by
  cases due with
  | bare look live bare =>
    obtain ⟨z₁, looked, rfl⟩ := exists_look look
    exact ⟨x, z₁, z₁, looked, rfl, rfl, fun _ _ => .bare live bare⟩
  | lost asks fetched gone =>
    obtain ⟨z₁, look, rfl⟩ := exists_look asks.look
    obtain ⟨z₂, asked, rfl⟩ := exists_ask fetched (.get p.item.ns x.task) rfl
    exact ⟨x.withoutTask, z₁, z₂.lose e p.item.ns x.task, look, Scene.backend_lose .., rfl,
      fun _ _ => .lost asks.live asks.task asked gone⟩

/-- Where the backend halts, a turn stops. -/
theorem exists_turn_of_halts {definition : String}
    (halts : e.backend.Halts p (statusOrFresh definition prior) s.backend i) :
    ∃ s₁, Turn e p prior definition s (.error i) s₁ := by
  cases halts with
  | before cancelled =>
    obtain ⟨z₁, look, -⟩ := exists_look (Prod.ext cancelled rfl)
    exact ⟨z₁, .stopped look⟩
  | reading asks dropped =>
    obtain ⟨z₁, look, rfl⟩ := exists_look asks.look
    obtain ⟨z₂, fetched, -⟩ := exists_ask (Prod.ext dropped rfl) _ rfl
    exact ⟨z₂, .interrupted look (.unanswered asks.live asks.task fetched)⟩
  | unread asks failed failure =>
    obtain ⟨z₁, look, rfl⟩ := exists_look asks.look
    obtain ⟨z₂, fetched, -⟩ := exists_ask (Prod.ext failed rfl) _ rfl
    exact ⟨z₂, .interrupted look (.unread asks.live asks.task fetched failure)⟩
  | resolving due dropped =>
    obtain ⟨y, z₁, z₂, look, rfl, same, course⟩ := exists_course_of_due due
    rw [← same] at dropped
    obtain ⟨z₃, resolved, -⟩ := exists_ask (Prod.ext dropped rfl) _ rfl
    exact ⟨z₃, .interrupted look (course _ _ (.unanswered resolved))⟩
  | creating due resolved dropped =>
    obtain ⟨y, z₁, z₂, look, rfl, same, course⟩ := exists_course_of_due due
    rw [← same] at resolved
    obtain ⟨z₃, resolved, rfl⟩ := exists_ask resolved _ rfl
    obtain ⟨z₄, put, -⟩ :=
      exists_ask (s := (z₃.sample e.backend.draw).2) (Prod.ext dropped rfl) _ rfl
    exact ⟨z₄, .interrupted look (course _ _ (.dropped resolved rfl put))⟩

/-- **What stops a turn** is an answer of the backend. -/
theorem turn_eq_error_iff (definition : String) (w : World σ τ) :
    (e.turn p prior definition w).1 = .error i ↔
      e.backend.Halts p (statusOrFresh definition prior) w.backend i := by
  have turn := e.turn_turn p prior definition w
  constructor
  · intro stopped
    rw [stopped] at turn
    exact turn.halts
  · intro halts
    obtain ⟨_, turn'⟩ := exists_turn_of_halts (s := w.scene) halts
    exact (turn.unique turn').1

end

/-! ## Where a pass stops -/

section

variable {σ τ : Type} (e : Engine σ τ) (p : Pass)

/-- **The first halt is where the turns stop.** -/
theorem visitAll_eq_error_iff (prior : List ItemStatus) (definitions : List String)
    (r : Reconciliation) (w : World σ τ) (err : PassError) :
    (e.visitAll p prior r definitions w).1 = .error err ↔
      ∃ before definition after done w₁ i,
        definitions = before ++ definition :: after ∧
        e.visitAll p prior r before w = (.ok done, w₁) ∧
        e.backend.Halts p (statusOrFresh definition prior) w₁.backend i ∧
        err = i.passError definition
          (done.statuses ++ (definition :: after).map (statusOrFresh · prior)) := by
  induction definitions generalizing r w with
  | nil => simp [visitAll, Run.map_apply]
  | cons first rest ih =>
    rw [visitAll_cons]
    cases result : e.turn p prior first w with
    | mk answer w₁ =>
    cases answer with
    | ok o =>
      have passed (i : Interruption) :
          ¬e.backend.Halts p (statusOrFresh first prior) w.backend i := by
        simp [← turn_eq_error_iff, result]
      simp only [ih]
      constructor
      · rintro ⟨before, definition, after, done, w₂, i, rfl, ran, halts, rfl⟩
        refine ⟨first :: before, definition, after, done, w₂, i, rfl, ?_, halts, rfl⟩
        rw [visitAll_cons, result]
        exact ran
      · rintro ⟨_ | ⟨_, before⟩, definition, after, done, w₂, i, split, ran, halts, rfl⟩
        · obtain ⟨rfl, rfl⟩ := List.cons.inj split
          obtain ⟨-, rfl⟩ := Prod.mk.inj ran
          exact absurd halts (passed i)
        · obtain ⟨rfl, rfl⟩ := List.cons.inj split
          rw [visitAll_cons, result] at ran
          exact ⟨before, definition, after, done, w₂, i, rfl, ran, halts, rfl⟩
    | error i =>
      simp only [Run.map_apply, interrupted_fst, Except.error.injEq]
      constructor
      · rintro rfl
        exact ⟨[], first, rest, _, _, i, rfl, rfl,
          (turn_eq_error_iff first w).mp (congrArg Prod.fst result), rfl⟩
      · rintro ⟨_ | ⟨_, before⟩, definition, after, done, w₂, j, split, ran, halts, rfl⟩
        · obtain ⟨rfl, rfl⟩ := List.cons.inj split
          obtain ⟨ended, rfl⟩ := Prod.mk.inj ran
          obtain rfl := Except.ok.inj ended
          have stopped := (turn_eq_error_iff first w).mpr halts
          rw [result] at stopped
          rw [Except.error.inj stopped]
          rfl
        · obtain ⟨rfl, rfl⟩ := List.cons.inj split
          rw [visitAll_cons, result] at ran
          cases ran

/-- **When a pass fails, and with what.**  A pass fails if and only if, one declared name after the
other, it comes to one at which something halts it: the pass over the names before comes to its end,
and in the state of the backend that it leaves, the entry of this name is halted.  The error is
about this name.  It hands over one entry for each declared name, in order: first those of the pass
over the names before, and then the entries of the other names as they were before the pass. -/
theorem fails_iff_halted (w : World σ τ) (err : PassError) :
    (e.reconcile p w).1 = .error err ↔
      ∃ (before : List String) (definition : String) (after : List String) (done : Reconciliation)
        (w₁ : World σ τ) (i : Interruption),
        p.item.declared p.group = before ++ definition :: after ∧
        e.reconcile (p.declaring before) w = (.ok done, w₁) ∧
        e.backend.Halts p (p.entry definition) w₁.backend i ∧
        err = i.passError definition (done.statuses ++ (definition :: after).map p.entry) ∧
        done.statuses.map (·.definition) = before ∧
        err.partialStatuses.map (·.definition) = p.item.declared p.group := by
  simp only [reconcile_declaring]
  rw [reconcile, visitAll_eq_error_iff]
  constructor
  · rintro ⟨before, definition, after, done, w₁, i, split, ran, halts, rfl⟩
    have ending := e.visitAll_ending p (p.item.statuses p.group) before .empty w
    rw [ran] at ending
    have names : done.statuses.map (·.definition) = before := ending.definitions
    refine ⟨before, definition, after, done, w₁, i, split, ran, halts, rfl, names, ?_⟩
    rw [Interruption.partialStatuses_passError, List.map_append, names, split, List.map_map]
    simp [Function.comp_def]
  · rintro ⟨before, definition, after, done, w₁, i, split, ran, halts, rfl, -⟩
    exact ⟨before, definition, after, done, w₁, i, split, ran, halts, rfl⟩

end

end Engine

end DeployChecks
