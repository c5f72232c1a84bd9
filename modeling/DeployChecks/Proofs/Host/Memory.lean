import DeployChecks.Proofs.Engine.Invariant

/-!
# Proofs/Host/Memory — a backend in memory, with everything else left to chance

A task store and a registry of definitions answer a pass.  Chance decides the rest, freely and anew
at every look: whether the token is cancelled, whether a call is answered, fails or is dropped, what
the clock shows and which random numbers are drawn.  A call that fails or is dropped touches
neither the tasks nor the definitions.  Main definitions: `Chance`, `Memory.backend`,
`Memory.engine`; main statements: `get_cases`, `resolve_cases`, `create_cases`.
-/

namespace DeployChecks

/-- **What becomes of a call.** -/
inductive Fate (ε : Type) where
  /-- It is answered from memory. -/
  | answered
  /-- It fails. -/
  | failed (err : ε)
  /-- The token is cancelled before there is an answer. -/
  | dropped

/-- **What is left to chance** in a pass, look by look. -/
structure Chance where
  /-- The token is cancelled. -/
  cancelled : Nat → Bool
  /-- Asking for a task. -/
  get : Nat → Fate StoreError
  /-- Creating a task. -/
  create : Nat → Fate StoreError
  /-- Resolving a definition. -/
  resolve : Nat → Fate ResolveError
  /-- The time. -/
  clock : Nat → Timestamp
  /-- The random numbers. -/
  draw : Nat → Nat

namespace Chance

/-- **Nobody lies about a lost task**: a failure to read a task never reads as if there were none.
That there is none is for the store to say. -/
def IsTruthful (c : Chance) : Prop := ∀ n err, c.get n = .failed err → err.isNotFound = false

/-- **Nothing is refused**: no creation and no resolution fails, and nobody lies about a lost task.
Calls may be dropped, and reading a task may fail. -/
structure IsOrderly (c : Chance) : Prop where
  /-- Nobody lies about a lost task. -/
  get : c.IsTruthful
  /-- No creation fails. -/
  create : ∀ n err, c.create n ≠ .failed err
  /-- No resolution fails. -/
  resolve : ∀ n err, c.resolve n ≠ .failed err

/-- **Nothing goes wrong at all**: the token is never cancelled, and every call is answered. -/
structure IsCalm (c : Chance) : Prop where
  /-- The token is never cancelled. -/
  cancelled : ∀ n, c.cancelled n = false
  /-- Asking for a task is answered. -/
  get : ∀ n, c.get n = .answered
  /-- So is creating one. -/
  create : ∀ n, c.create n = .answered
  /-- So is resolving a definition. -/
  resolve : ∀ n, c.resolve n = .answered

theorem IsCalm.isOrderly {c : Chance} (calm : c.IsCalm) : c.IsOrderly where
  get n err failed := by
    rw [calm.get n] at failed
    cases failed
  create n err failed := by
    rw [calm.create n] at failed
    cases failed
  resolve n err failed := by
    rw [calm.resolve n] at failed
    cases failed

/-- Nothing goes wrong. -/
def calm : Chance where
  cancelled _ := false
  get _ := .answered
  create _ := .answered
  resolve _ := .answered
  clock _ := default
  draw n := n

theorem isTruthful_calm : calm.IsTruthful := nofun

/-- With any random numbers. -/
theorem isCalm_calm (draw : Nat → Nat) : ({ calm with draw } : Chance).IsCalm :=
  ⟨fun _ => rfl, fun _ => rfl, fun _ => rfl, fun _ => rfl⟩

end Chance

/-- **What decides, in memory.** -/
structure Memory where
  /-- The tasks. -/
  store : TaskStore
  /-- The definitions. -/
  registry : DefinitionRegistry
  /-- How many looks at chance there were. -/
  looks : Nat

namespace TaskStore

theorem peek_of_get_ok {s : TaskStore} {k : TaskKey} {t : Task} (given : (s.get k).1 = .ok t) :
    s.peek k = some t := by
  unfold get at given
  dsimp only at given
  split at given
  · next found => rw [found, Except.ok.inj given]
  · cases given

theorem peek_of_get_error {s : TaskStore} {k : TaskKey} {err : StoreError}
    (given : (s.get k).1 = .error err) : s.peek k = none := by
  unfold get at given
  dsimp only at given
  split at given
  · cases given
  · next missing => exact missing

/-- Putting a task in where there is one already is refused. -/
theorem create_of_taken {s : TaskStore} {t : Task} (taken : (s.peek t.key).isSome) :
    s.create t
      = (.error (.alreadyExists t.ns t.name), { s with createCalls := s.createCalls + 1 }) :=
  if_pos taken

/-- Putting a task in where there is none stores it. -/
theorem create_of_free {s : TaskStore} {t : Task} (free : s.peek t.key = none) :
    s.create t = (.ok t,
      { s with createCalls := s.createCalls + 1, tasks := s.tasks.insert t.key t }) :=
  if_neg (by rw [show ({ s with createCalls := s.createCalls + 1 } : TaskStore).peek t.key = none
    from free]; decide)

/-- **Every task stands under its own key.** -/
def IsKeyed (s : TaskStore) : Prop := ∀ k t, s.peek k = some t → t.key = k

theorem isKeyed_empty : empty.IsKeyed := by
  intro k t found
  rw [show empty.peek k = none from Keyed.find?_empty k] at found
  cases found

theorem IsKeyed.of_tasks {s s' : TaskStore} (h : s.IsKeyed) (same : s'.tasks = s.tasks) :
    s'.IsKeyed := by
  intro k t found
  rw [peek, same] at found
  exact h k t found

theorem IsKeyed.of_insert {s s' : TaskStore} (h : s.IsKeyed) {t : Task}
    (inserted : s'.tasks = s.tasks.insert t.key t) : s'.IsKeyed := by
  intro k t' found
  rw [peek, inserted, Keyed.find?_insert] at found
  split at found
  · next e => rw [e, Option.some.inj found]
  · exact h k t' found

theorem IsKeyed.report {s : TaskStore} (h : s.IsKeyed) (k : TaskKey) (state : TaskState)
    (message : String) (now : Timestamp) : (s.report k state message now).2.IsKeyed := by
  unfold TaskStore.report
  split
  · next t found =>
    obtain rfl := h k t found
    exact h.of_insert (t := { t with status := t.status.report state message now }) rfl
  · exact h

theorem IsKeyed.remove {s : TaskStore} (h : s.IsKeyed) (k : TaskKey) : (s.remove k).2.IsKeyed := by
  intro k' t found
  rw [TaskStore.remove, peek, Keyed.find?_erase] at found
  split at found
  · cases found
  · exact h k' t found

end TaskStore

namespace Memory

variable {τ α ε : Type}

/-- One more look at chance. -/
def next (m : Memory) : Memory := { m with looks := m.looks + 1 }

/-- A call whose fate is known, with the answer that the memory has for it. -/
def settle (m : Memory) (fate : Fate ε) (answer : Except ε α) (store : TaskStore) :
    Option (Except ε α) × Memory :=
  match fate with
  | .answered => (some answer, { m with store })
  | .failed err => (some (.error err), m)
  | .dropped => (none, m)

/-- **The backend in memory**, at the mercy of chance. -/
def backend (c : Chance) : Backend Memory where
  isCancelled m := (c.cancelled m.looks, m.next)
  get ns name := Act.silent fun m =>
    m.next.settle (c.get m.looks) (m.store.get ⟨ns, name⟩).1 (m.store.get ⟨ns, name⟩).2
  create t := Act.silent fun m =>
    m.next.settle (c.create m.looks) (m.store.create t).1 (m.store.create t).2
  resolve name ns := fun m =>
    let (answer, m') :=
      m.next.settle (c.resolve m.looks) (m.registry.resolve name ns) m.store
    ((answer, m.registry.resolveNotes name ns), m')
  now m := (c.clock m.looks, m.next)
  draw m := (c.draw m.looks, m.next)

/-- **The engine over the memory**, with any observer. -/
def engine (c : Chance) (o : Observer τ) : Engine Memory τ := ⟨backend c, o⟩

/-- **The memory holds the same**: the same tasks and the same definitions. -/
structure Same (m m' : Memory) : Prop where
  /-- The tasks. -/
  tasks : m'.store.tasks = m.store.tasks
  /-- The definitions. -/
  registry : m'.registry = m.registry

namespace Same

theorem refl (m : Memory) : Same m m := ⟨rfl, rfl⟩

theorem trans {m m' m'' : Memory} (h : Same m m') (h' : Same m' m'') : Same m m'' :=
  ⟨h'.tasks.trans h.tasks, h'.registry.trans h.registry⟩

theorem of_next {m m' : Memory} (h : Same m.next m') : Same m m' := ⟨h.tasks, h.registry⟩

end Same

/-! ## What the memory answers -/

variable (c : Chance) (m : Memory)

/-- **Asking for a task** leaves the memory as it is.  The answer is the store's, unless chance
has it otherwise. -/
theorem get_cases (ns name : String) :
    Same m ((backend c).get ns name m).2 ∧
      (((backend c).get ns name m).1.1 = none ∨
        (∃ n err, c.get n = .failed err ∧
          ((backend c).get ns name m).1.1 = some (.error err)) ∨
        ((backend c).get ns name m).1.1 = some (m.store.get ⟨ns, name⟩).1) := by
  simp only [backend, Act.silent]
  generalize fate : c.get m.looks = f
  cases f with
  | answered => exact ⟨⟨rfl, rfl⟩, .inr (.inr rfl)⟩
  | failed err => exact ⟨⟨rfl, rfl⟩, .inr (.inl ⟨_, err, fate, rfl⟩)⟩
  | dropped => exact ⟨⟨rfl, rfl⟩, .inl rfl⟩

/-- **Resolving a definition** leaves the memory as it is.  The answer is the registry's, unless
chance has it otherwise. -/
theorem resolve_cases (name ns : String) :
    Same m ((backend c).resolve name ns m).2 ∧
      (((backend c).resolve name ns m).1.1 = none ∨
        (∃ n err, c.resolve n = .failed err ∧
          ((backend c).resolve name ns m).1.1 = some (.error err)) ∨
        ((backend c).resolve name ns m).1.1 = some (m.registry.resolve name ns)) := by
  simp only [backend]
  generalize fate : c.resolve m.looks = f
  cases f with
  | answered => exact ⟨⟨rfl, rfl⟩, .inr (.inr rfl)⟩
  | failed err => exact ⟨⟨rfl, rfl⟩, .inr (.inl ⟨_, err, fate, rfl⟩)⟩
  | dropped => exact ⟨⟨rfl, rfl⟩, .inl rfl⟩

/-- **Putting a task in** either stores it under a free key, or leaves the memory as it is. -/
theorem create_cases (t : Task) :
    (((backend c).create t m).1.1 = none ∧ Same m ((backend c).create t m).2) ∨
      (∃ err, ((backend c).create t m).1.1 = some (.error err) ∧
        Same m ((backend c).create t m).2 ∧
        ((∃ n, c.create n = .failed err) ∨ (m.store.peek t.key).isSome)) ∨
      (((backend c).create t m).1.1 = some (.ok t) ∧ m.store.peek t.key = none ∧
        ((backend c).create t m).2.store.tasks = m.store.tasks.insert t.key t ∧
        ((backend c).create t m).2.registry = m.registry) := by
  simp only [backend, Act.silent]
  generalize fate : c.create m.looks = f
  cases f with
  | dropped => exact .inl ⟨rfl, rfl, rfl⟩
  | failed err => exact .inr (.inl ⟨err, rfl, ⟨rfl, rfl⟩, .inl ⟨_, fate⟩⟩)
  | answered =>
    cases taken : m.store.peek t.key with
    | some t' =>
      rw [TaskStore.create_of_taken (by rw [taken]; rfl)]
      exact .inr (.inl ⟨_, rfl, ⟨rfl, rfl⟩, .inr rfl⟩)
    | none =>
      rw [TaskStore.create_of_free taken]
      exact .inr (.inr ⟨rfl, rfl, rfl, rfl⟩)

end Memory

namespace Scene

open Memory (Same)

variable {τ α : Type} {s s₁ : Scene Memory τ} {c : Chance} {o : Observer τ} {p : Pass}

/-! ## What a look leaves -/

theorem same_look : Same s.backend (s.look (Memory.engine c o)).2.backend := ⟨rfl, rfl⟩

theorem same_of_draw {draw : Nat} (drawn : s.sample (Memory.engine c o).backend.draw = (draw, s₁)) :
    Same s.backend s₁.backend := by
  obtain rfl := congrArg Prod.snd drawn
  exact ⟨rfl, rfl⟩

theorem same_announce (phase : Phase) (severity : Severity) (reason message : String) :
    Same s.backend
      (s.announce (Memory.engine c o) p phase severity reason message).backend := ⟨rfl, rfl⟩

theorem same_announceChange (definition : String) (previous : Option TaskState)
    (current : TaskState) :
    Same s.backend
      (s.announceChange (Memory.engine c o) p definition previous current).backend := by
  unfold announceChange
  split
  · exact .refl _
  · exact same_announce _ _ _ _

theorem same_lose (ns task : String) :
    Same s.backend (s.lose (Memory.engine c o) ns task).backend := by
  rw [backend_lose]
  exact .refl _

theorem same_refresh (t : Task) (status : ItemStatus) :
    Same s.backend (s.refresh (Memory.engine c o) p t status).2.backend := by
  unfold refresh
  split <;> exact ⟨rfl, rfl⟩

theorem same_welcome (t : Task) (status : ItemStatus) :
    Same s.backend (s.welcome (Memory.engine c o) p t status).2.backend := ⟨rfl, rfl⟩

/-! ## What is answered to a scene -/

/-- What a scene is answered when it asks for a task. -/
theorem fetch_cases {status : ItemStatus} {answer : Option (Except StoreError Task)}
    (fetched : s.fetch (Memory.engine c o) p status = (answer, s₁)) :
    Same s.backend s₁.backend ∧
      (answer = none ∨ (∃ n err, c.get n = .failed err ∧ answer = some (.error err)) ∨
        answer = some (s.backend.store.get ⟨p.item.ns, status.task⟩).1) := by
  obtain ⟨rfl, rfl⟩ | made := s.ask_cases _ fetched
  · exact ⟨same_look, .inl rfl⟩
  obtain ⟨rfl, rfl⟩ := Prod.mk.inj made
  obtain ⟨same, answer⟩ := Memory.get_cases c s.backend.next p.item.ns status.task
  exact ⟨same.of_next, answer⟩

/-- What it is answered when it resolves a definition. -/
theorem resolve_cases {status : ItemStatus} {answer : Option (Except ResolveError TaskDefinition)}
    (resolved : s.resolve (Memory.engine c o) p status = (answer, s₁)) :
    Same s.backend s₁.backend ∧
      (answer = none ∨ (∃ n err, c.resolve n = .failed err ∧ answer = some (.error err)) ∨
        answer = some (s.backend.registry.resolve status.definition p.item.ns)) := by
  obtain ⟨rfl, rfl⟩ | made := s.ask_cases _ resolved
  · exact ⟨same_look, .inl rfl⟩
  obtain ⟨rfl, rfl⟩ := Prod.mk.inj made
  obtain ⟨same, answer⟩ := Memory.resolve_cases c s.backend.next status.definition p.item.ns
  exact ⟨same.of_next, answer⟩

/-- What it is answered when it puts a task in. -/
theorem put_cases {t : Task} {answer : Option (Except StoreError Task)}
    (put : s.put (Memory.engine c o) t = (answer, s₁)) :
    (answer = none ∧ Same s.backend s₁.backend) ∨
      (∃ err, answer = some (.error err) ∧ Same s.backend s₁.backend ∧
        ((∃ n, c.create n = .failed err) ∨ (s.backend.store.peek t.key).isSome)) ∨
      (answer = some (.ok t) ∧ s.backend.store.peek t.key = none ∧
        s₁.backend.store.tasks = s.backend.store.tasks.insert t.key t ∧
        s₁.backend.registry = s.backend.registry) := by
  obtain ⟨rfl, rfl⟩ | made := s.ask_cases _ put
  · exact .inl ⟨rfl, same_look⟩
  obtain ⟨rfl, rfl⟩ := Prod.mk.inj made
  obtain ⟨answer, same⟩ | ⟨err, answer, same, why⟩ | created :=
    Memory.create_cases c s.backend.next t
  · exact .inl ⟨answer, same.of_next⟩
  · exact .inr (.inl ⟨err, answer, same.of_next, why⟩)
  · exact .inr (.inr created)

/-- A task that is read back is the one in the store. -/
theorem found_of_fetch {status : ItemStatus} {t : Task}
    (fetched : s.fetch (Memory.engine c o) p status = (some (.ok t), s₁)) :
    s.backend.store.peek ⟨p.item.ns, status.task⟩ = some t := by
  obtain ⟨-, answer | ⟨_, _, -, answer⟩ | answer⟩ := fetch_cases fetched
  · cases answer
  · cases answer
  exact TaskStore.peek_of_get_ok (Option.some.inj answer).symm

/-- A task that is reported lost is not in the store. -/
theorem missing_of_fetch (truthful : c.IsTruthful) {status : ItemStatus} {err : StoreError}
    (fetched : s.fetch (Memory.engine c o) p status = (some (.error err), s₁))
    (gone : err.isNotFound = true) :
    s.backend.store.peek ⟨p.item.ns, status.task⟩ = none := by
  obtain ⟨-, answer | ⟨n, err', failed, answer⟩ | answer⟩ := fetch_cases fetched
  · cases answer
  · cases answer
    rw [truthful n err failed] at gone
    cases gone
  · exact TaskStore.peek_of_get_error (Option.some.inj answer).symm

/-- A definition that is resolved is the registry's. -/
theorem resolved_of_resolve {status : ItemStatus} {d : TaskDefinition}
    (resolved : s.resolve (Memory.engine c o) p status = (some (.ok d), s₁)) :
    s.backend.registry.resolve status.definition p.item.ns = .ok d := by
  obtain ⟨-, answer | ⟨_, _, -, answer⟩ | answer⟩ := resolve_cases resolved
  · cases answer
  · cases answer
  · exact (Option.some.inj answer).symm

/-- **A task that is created** is the one that was stamped, and stands under a key that was
free. -/
theorem created_of_put {s₂ s₃ : Scene Memory τ} {status : ItemStatus} {d : TaskDefinition}
    {draw : Nat} {t : Task}
    (resolved : s.resolve (Memory.engine c o) p status = (some (.ok d), s₁))
    (drawn : s₁.sample (Memory.engine c o).backend.draw = (draw, s₂))
    (put : s₂.put (Memory.engine c o) (p.stamp d draw) = (some (.ok t), s₃)) :
    t = p.stamp d draw ∧ s.backend.store.peek t.key = none ∧
      s₃.backend.store.tasks = s.backend.store.tasks.insert t.key t ∧
      s₃.backend.registry = s.backend.registry := by
  have same := (resolve_cases resolved).1.trans (same_of_draw drawn)
  obtain ⟨answer, -⟩ | ⟨_, answer, -⟩ | ⟨answer, free, tasks, registry⟩ := put_cases put
  · cases answer
  · cases answer
  · obtain rfl : t = p.stamp d draw := by simpa using answer
    refine ⟨rfl, ?_, ?_, registry.trans same.registry⟩
    · rw [TaskStore.peek, ← same.tasks]
      exact free
    · rw [tasks, same.tasks]

/-- A task that is refused leaves the memory as it is. -/
theorem same_of_refused {s₂ s₃ : Scene Memory τ} {status : ItemStatus} {d : TaskDefinition}
    {draw : Nat} {err : StoreError}
    (resolved : s.resolve (Memory.engine c o) p status = (some (.ok d), s₁))
    (drawn : s₁.sample (Memory.engine c o).backend.draw = (draw, s₂))
    (put : s₂.put (Memory.engine c o) (p.stamp d draw) = (some (.error err), s₃)) :
    Same s.backend s₃.backend := by
  have same := (resolve_cases resolved).1.trans (same_of_draw drawn)
  obtain ⟨answer, -⟩ | ⟨-, -, same', -⟩ | ⟨answer, -⟩ := put_cases put
  · cases answer
  · exact same.trans same'
  · cases answer

/-! ## Where nothing goes wrong -/

theorem fetch_calm (calm : c.IsCalm) (status : ItemStatus) :
    (s.fetch (Memory.engine c o) p status).1
      = some (s.backend.store.get ⟨p.item.ns, status.task⟩).1 := by
  simp [fetch, ask, look, sample, decide, Memory.engine, Memory.backend, Act.silent, calm.cancelled,
    calm.get, Memory.settle, Memory.next]

theorem resolve_calm (calm : c.IsCalm) (status : ItemStatus) :
    (s.resolve (Memory.engine c o) p status).1
      = some (s.backend.registry.resolve status.definition p.item.ns) := by
  simp [resolve, ask, look, sample, decide, Memory.engine, Memory.backend, calm.cancelled,
    calm.resolve, Memory.settle, Memory.next]

theorem put_calm (calm : c.IsCalm) (t : Task) :
    (s.put (Memory.engine c o) t).1 = some (s.backend.store.create t).1 := by
  simp [put, ask, look, sample, decide, Memory.engine, Memory.backend, Act.silent, calm.cancelled,
    calm.create, Memory.settle, Memory.next]

end Scene

namespace Engine

open Memory (Same)

variable {τ : Type} {c : Chance} {o : Observer τ} {p : Pass} {s s' : Scene Memory τ}
  {i : Interruption}

theorem Creation.not_error_of_calm (calm : c.IsCalm) {status : ItemStatus} :
    ¬ Creation (Memory.engine c o) p status s (.error i) s' := by
  intro creation
  cases creation with
  | unanswered resolved =>
    have answer := congrArg Prod.fst resolved
    rw [Scene.resolve_calm calm] at answer
    cases answer
  | dropped resolved drawn put =>
    have answer := congrArg Prod.fst put
    rw [Scene.put_calm calm] at answer
    cases answer

/-- **Where nothing goes wrong, no turn stops the pass.** -/
theorem Turn.not_error_of_calm (calm : c.IsCalm) {prior : List ItemStatus} {definition : String} :
    ¬ Turn (Memory.engine c o) p prior definition s (.error i) s' := by
  intro turn
  cases turn with
  | stopped look =>
    have answer : c.cancelled s.backend.looks = true := congrArg Prod.fst look
    rw [calm.cancelled] at answer
    cases answer
  | interrupted look course =>
    cases course with
    | unanswered _ _ fetched =>
      have answer := congrArg Prod.fst fetched
      rw [Scene.fetch_calm calm] at answer
      cases answer
    | unread _ _ fetched failure =>
      have answer := congrArg Prod.fst fetched
      rw [Scene.fetch_calm calm, Option.some.injEq, TaskStore.get] at answer
      dsimp only at answer
      split at answer
      · cases answer
      · cases answer
        cases failure
    | lost _ _ _ _ creation => exact creation.not_error_of_calm calm
    | bare _ _ creation => exact creation.not_error_of_calm calm

/-! ## A turn that stops the pass leaves the memory as it is -/

theorem Creation.same_of_error {status : ItemStatus}
    (creation : Creation (Memory.engine c o) p status s (.error i) s') :
    Same s.backend s'.backend := by
  cases creation with
  | unanswered resolved => exact (Scene.resolve_cases resolved).1
  | dropped resolved drawn put =>
    have same := (Scene.resolve_cases resolved).1.trans (Scene.same_of_draw drawn)
    obtain ⟨-, same'⟩ | ⟨_, answer, -⟩ | ⟨answer, -⟩ := Scene.put_cases put
    · exact same.trans same'
    · cases answer
    · cases answer

theorem Course.same_of_error {status : ItemStatus}
    (course : Course (Memory.engine c o) p status s (.error i) s') :
    Same s.backend s'.backend := by
  cases course with
  | unanswered _ _ fetched => exact (Scene.fetch_cases fetched).1
  | unread _ _ fetched _ => exact (Scene.fetch_cases fetched).1
  | lost _ _ fetched _ creation =>
    exact ((Scene.fetch_cases fetched).1.trans (Scene.same_lose _ _)).trans creation.same_of_error
  | bare _ _ creation => exact creation.same_of_error

theorem Turn.same_of_error {prior : List ItemStatus} {definition : String}
    (turn : Turn (Memory.engine c o) p prior definition s (.error i) s') :
    Same s.backend s'.backend := by
  cases turn with
  | stopped look => obtain rfl := congrArg Prod.snd look; exact Scene.same_look
  | interrupted look course =>
    obtain rfl := congrArg Prod.snd look
    exact Scene.same_look.trans course.same_of_error

/-! ## Tasks stay under their keys -/

theorem Creation.isKeyed {status : ItemStatus} {result : Except Interruption Outcome}
    (creation : Creation (Memory.engine c o) p status s result s')
    (keyed : s.backend.store.IsKeyed) : s'.backend.store.IsKeyed := by
  cases creation with
  | unanswered resolved | unresolved resolved =>
    exact keyed.of_tasks (Scene.resolve_cases resolved).1.tasks
  | dropped resolved drawn put =>
    exact keyed.of_tasks (Creation.dropped resolved drawn put).same_of_error.tasks
  | refused resolved drawn put =>
    exact keyed.of_tasks
      ((Scene.same_of_refused resolved drawn put).trans (Scene.same_announce _ _ _ _)).tasks
  | created resolved drawn put =>
    obtain ⟨-, -, tasks, -⟩ := Scene.created_of_put resolved drawn put
    exact (keyed.of_insert tasks).of_tasks (Scene.same_welcome _ status).tasks

theorem Course.isKeyed {status : ItemStatus} {result : Except Interruption Outcome}
    (course : Course (Memory.engine c o) p status s result s')
    (keyed : s.backend.store.IsKeyed) : s'.backend.store.IsKeyed := by
  cases course with
  | finished => exact keyed
  | unanswered _ _ fetched | unread _ _ fetched _ =>
    exact keyed.of_tasks (Scene.fetch_cases fetched).1.tasks
  | read _ _ fetched =>
    exact keyed.of_tasks ((Scene.fetch_cases fetched).1.trans (Scene.same_refresh _ _)).tasks
  | lost _ _ fetched _ creation =>
    exact creation.isKeyed
      (keyed.of_tasks ((Scene.fetch_cases fetched).1.trans (Scene.same_lose _ _)).tasks)
  | bare _ _ creation => exact creation.isKeyed keyed

/-- **A turn leaves every task under its own key.** -/
theorem Turn.isKeyed {prior : List ItemStatus} {definition : String}
    {result : Except Interruption Outcome}
    (turn : Turn (Memory.engine c o) p prior definition s result s')
    (keyed : s.backend.store.IsKeyed) : s'.backend.store.IsKeyed := by
  cases turn with
  | stopped look => obtain rfl := congrArg Prod.snd look; exact keyed
  | interrupted look course => obtain rfl := congrArg Prod.snd look; exact course.isKeyed keyed
  | done look course =>
    obtain rfl := congrArg Prod.snd look
    exact (course.isKeyed keyed).of_tasks (Scene.same_announceChange _ _ _).tasks

end Engine

end DeployChecks
