import DeployChecks.Proofs.Host.Watch
import DeployChecks.Proofs.Rounds.Basic

/-!
# Proofs/Rounds/Verdict — what comes of a definition, whenever its turn comes

A backend is **steady** if it answers from the tasks and the definitions that it holds, and takes or
refuses a new task by what it asks for: no answer depends on what was asked before.  Then what comes
of a definition follows from its entry and from what there was before the pass.  The reason is that
a turn touches nothing but the key of the task that it creates, and that key is new.  The
**verdict** on an entry is said without any pass; it leaves only the names of new tasks and the
times open.  Main definitions: `Backend.IsSteady`, `Verdict`; main statements: `Verdict.alike`,
`Turn.verdict`, and `Memory.isSteady_rejecting` for the backend in memory.
-/

namespace DeployChecks

/-! ## Steady backends -/

/-- **What a backend holds**, and what it takes. -/
structure Holdings (σ : Type) where
  /-- The tasks. -/
  tasks : σ → TaskKey → Option Task
  /-- The definitions. -/
  definitions : σ → String → String → Except ResolveError TaskDefinition
  /-- Why it refuses a task that asks for so much, if it does. -/
  refusal : TaskSpec → Option StoreError

namespace Holdings

variable {σ : Type} (h : Holdings σ)

/-- **Two states hold the same.** -/
structure Same (s s' : σ) : Prop where
  /-- The tasks. -/
  tasks : h.tasks s' = h.tasks s
  /-- The definitions. -/
  definitions : h.definitions s' = h.definitions s

variable {h}

theorem Same.trans {s s' s'' : σ} (same : h.Same s s') (same' : h.Same s' s'') : h.Same s s'' :=
  ⟨same'.tasks.trans same.tasks, same'.definitions.trans same.definitions⟩

end Holdings

/-- **A steady backend**: it answers from its holdings.  It may also give no answer, and fail to
read a task, both of which stop a pass. -/
structure Backend.IsSteady {σ : Type} (b : Backend σ) (h : Holdings σ) : Prop where
  /-- A look at the token leaves the holdings. -/
  isCancelled : ∀ s, h.Same s (b.isCancelled s).2
  /-- So does the time. -/
  now : ∀ s, h.Same s (b.now s).2
  /-- So does a random number. -/
  draw : ∀ s, h.Same s (b.draw s).2
  /-- So does asking for a task. -/
  get : ∀ ns name s, h.Same s (b.get ns name s).2
  /-- A task that is given is there. -/
  found : ∀ {ns name s t}, (b.get ns name s).1.1 = some (.ok t) → h.tasks s ⟨ns, name⟩ = some t
  /-- A task that is said not to be there is not. -/
  missing : ∀ {ns name s err}, (b.get ns name s).1.1 = some (.error err) →
    err.isNotFound = true → h.tasks s ⟨ns, name⟩ = none
  /-- Resolving a definition leaves the holdings. -/
  resolve : ∀ name ns s, h.Same s (b.resolve name ns s).2
  /-- A definition is resolved as it is held. -/
  resolved : ∀ {name ns s a}, (b.resolve name ns s).1.1 = some a → h.definitions s name ns = a
  /-- A task that is created is added as it is, under a key that was free. -/
  created : ∀ {t s t'}, (b.create t s).1.1 = some (.ok t') → t' = t ∧ h.refusal t.spec = none ∧
    h.tasks (b.create t s).2 = Function.update (h.tasks s) t.key (some t) ∧
    h.definitions (b.create t s).2 = h.definitions s
  /-- A task is refused for what it asks, or since there is one under its key. -/
  refused : ∀ {t s err}, (b.create t s).1.1 = some (.error err) → h.Same s (b.create t s).2 ∧
    (h.refusal t.spec = some err ∨ (h.tasks s t.key).isSome = true)

/-! ## The memory is steady -/

namespace Memory

variable {c : Chance}

/-- **The backend in memory that refuses tasks** by what they ask for. -/
def rejecting (refusal : TaskSpec → Option StoreError) (c : Chance) : Backend Memory :=
  { backend c with
    create := fun t =>
      match refusal t.spec with
      | some err => Act.silent fun m => (some (.error err), m.next)
      | none => (backend c).create t }

/-- What the memory holds. -/
def holdings (refusal : TaskSpec → Option StoreError) : Holdings Memory where
  tasks m := m.store.peek
  definitions m := m.registry.resolve
  refusal := refusal

theorem Same.holdings {m m' : Memory} (same : Same m m')
    (refusal : TaskSpec → Option StoreError) : (holdings refusal).Same m m' where
  tasks := funext fun k => congrArg (·.find? k) same.tasks
  definitions := congrArg DefinitionRegistry.resolve same.registry

/-- A task that is not refused is created as before. -/
theorem create_rejecting {refusal : TaskSpec → Option StoreError} {t : Task}
    (accepted : refusal t.spec = none) :
    (rejecting refusal c).create t = (backend c).create t := by
  simp [rejecting, accepted]

/-- **The memory is steady**, where chance neither refuses a task nor a definition. -/
theorem isSteady_rejecting (orderly : c.IsOrderly) (refusal : TaskSpec → Option StoreError) :
    (rejecting refusal c).IsSteady (holdings refusal) where
  isCancelled _ := ⟨rfl, rfl⟩
  now _ := ⟨rfl, rfl⟩
  draw _ := ⟨rfl, rfl⟩
  get ns name m := (get_cases c m ns name).1.holdings refusal
  found {ns name m t} given := by
    obtain ⟨-, answer | ⟨_, _, -, answer⟩ | answer⟩ := get_cases c m ns name
    · cases given.symm.trans answer
    · cases given.symm.trans answer
    · exact TaskStore.peek_of_get_ok (Option.some.inj (answer.symm.trans given))
  missing {ns name m err} given gone := by
    obtain ⟨-, answer | ⟨n, err', failed, answer⟩ | answer⟩ := get_cases c m ns name
    · cases given.symm.trans answer
    · cases given.symm.trans answer
      rw [orderly.get n err failed] at gone
      cases gone
    · exact TaskStore.peek_of_get_error (Option.some.inj (answer.symm.trans given))
  resolve name ns m := (resolve_cases c m name ns).1.holdings refusal
  resolved {name ns m a} given := by
    obtain ⟨-, answer | ⟨n, err, failed, -⟩ | answer⟩ := resolve_cases c m name ns
    · cases given.symm.trans answer
    · exact absurd failed (orderly.resolve n err)
    · exact Option.some.inj (answer.symm.trans given)
  created {t m t'} given := by
    cases refused : refusal t.spec with
    | some err => simp [rejecting, refused, Act.silent] at given
    | none =>
      rw [create_rejecting refused] at given ⊢
      obtain ⟨answer, -⟩ | ⟨_, answer, -⟩ | ⟨answer, -, tasks, registry⟩ := create_cases c m t
      · cases given.symm.trans answer
      · cases given.symm.trans answer
      · cases given.symm.trans answer
        refine ⟨rfl, refused, funext fun k => ?_, congrArg DefinitionRegistry.resolve registry⟩
        rw [Function.update_apply]
        exact (congrArg (·.find? k) tasks).trans (Keyed.find?_insert _ _ _ _)
  refused {t m err} given := by
    cases refused : refusal t.spec with
    | some err' =>
      simp only [rejecting, refused, Act.silent] at given ⊢
      cases given
      exact ⟨⟨rfl, rfl⟩, .inl refused⟩
    | none =>
      rw [create_rejecting refused] at given ⊢
      obtain ⟨answer, -⟩ | ⟨_, answer, same, why⟩ | ⟨answer, -⟩ := create_cases c m t
      · cases given.symm.trans answer
      · obtain ⟨n, failed⟩ | taken := why
        · exact absurd failed (orderly.create n _)
        · exact ⟨same.holdings refusal, .inr taken⟩
      · cases given.symm.trans answer

end Memory

/-! ## Verdicts -/

/-- **What a verdict is made from.** -/
structure Outlook where
  /-- The namespace of the item. -/
  ns : String
  /-- What the task of a definition asks for. -/
  spec : TaskDefinition → TaskSpec
  /-- The tasks. -/
  tasks : TaskKey → Option Task
  /-- The definitions. -/
  definitions : String → String → Except ResolveError TaskDefinition
  /-- What is refused. -/
  refusal : TaskSpec → Option StoreError

/-- **The verdict on an entry without a task.** -/
inductive Outlook.Grants (v : Outlook) (x : ItemStatus) : Outcome → Prop
  /-- There is no definition to go by. -/
  | unresolved {err : ResolveError} (missing : v.definitions x.definition v.ns = .error err) :
    Grants v x (.skipped x err.skipReason)
  /-- The task is refused. -/
  | refused {d : TaskDefinition} {err : StoreError}
      (resolved : v.definitions x.definition v.ns = .ok d)
      (refused : v.refusal (v.spec d) = some err) :
    Grants v x (.skipped x (.creationFailed err.message))
  /-- The task is created. -/
  | created {d : TaskDefinition} (name : String) (now : Timestamp)
      (resolved : v.definitions x.definition v.ns = .ok d)
      (accepted : v.refusal (v.spec d) = none) :
    Grants v x (.created ({ x with task := name }.started now))

/-- **The verdict on an entry**, from what there is before the pass. -/
inductive Outlook.Verdict (v : Outlook) (x : ItemStatus) : Outcome → Prop
  /-- The entry is finished. -/
  | finished (terminal : x.isTerminal = true) : Verdict v x (.unchanged x)
  /-- Its task is there, and not finished. -/
  | running {t : Task} (live : x.isTerminal = false) (task : x.hasTask = true)
      (found : v.tasks ⟨v.ns, x.task⟩ = some t) (runs : t.state.isTerminal = false) :
    Verdict v x (.refreshed { x with state := t.state } false)
  /-- Its task is there, and finished. -/
  | completed {t : Task} (now : Timestamp) (live : x.isTerminal = false) (task : x.hasTask = true)
      (found : v.tasks ⟨v.ns, x.task⟩ = some t) (ended : t.state.isTerminal = true) :
    Verdict v x (.refreshed ({ x with state := t.state }.ended now) true)
  /-- Its task is lost. -/
  | lost {o : Outcome} (live : x.isTerminal = false) (task : x.hasTask = true)
      (missing : v.tasks ⟨v.ns, x.task⟩ = none) (grants : v.Grants x.withoutTask o) :
    Verdict v x o
  /-- There never was a task. -/
  | bare {o : Outcome} (live : x.isTerminal = false) (bare : x.hasTask = false)
      (grants : v.Grants x o) :
    Verdict v x o

/-- **Outcomes that are alike**: they differ at most in the name of a new task and in the times that
were read off the clock. -/
inductive Outcome.Alike : Outcome → Outcome → Prop
  /-- Finished before. -/
  | unchanged (x : ItemStatus) : Alike (.unchanged x) (.unchanged x)
  /-- Created. -/
  | created (x : ItemStatus) (name name' : String) (now now' : Timestamp) :
    Alike (.created ({ x with task := name }.started now))
      (.created ({ x with task := name' }.started now'))
  /-- Read back, not finished. -/
  | running (x : ItemStatus) : Alike (.refreshed x false) (.refreshed x false)
  /-- Read back, finished. -/
  | completed (x : ItemStatus) (now now' : Timestamp) :
    Alike (.refreshed (x.ended now) true) (.refreshed (x.ended now') true)
  /-- Left for the next pass. -/
  | skipped (x : ItemStatus) (reason : SkipReason) : Alike (.skipped x reason) (.skipped x reason)

namespace Outlook

variable {v : Outlook} {x : ItemStatus} {o o' : Outcome}

theorem Grants.alike (grants : v.Grants x o) (grants' : v.Grants x o') : o.Alike o' := by
  cases grants <;> cases grants' <;> grind [Outcome.Alike]

/-- **There is one verdict only**, but for new names and times. -/
theorem Verdict.alike (verdict : v.Verdict x o) (verdict' : v.Verdict x o') : o.Alike o' := by
  cases verdict <;> cases verdict' <;> grind [Outcome.Alike, Grants.alike]

end Outlook

/-! ## The outlook of a pass -/

/-- **The outlook of a pass**, as it begins. -/
def Pass.outlook {σ : Type} (p : Pass) (h : Holdings σ) (s : σ) : Outlook where
  ns := p.item.ns
  spec d := (p.stamp d 0).spec
  tasks := h.tasks s
  definitions := h.definitions s
  refusal := h.refusal

/-- **The outlook is still good**: the definitions are as they were, and so are the tasks, but for
those that were created since. -/
structure Holdings.Stand {σ τ : Type} (h : Holdings σ) (ns : String) (start : σ) (s : Scene σ τ) :
    Prop where
  /-- The tasks. -/
  tasks : ∀ name ∉ createdNames s.calls, h.tasks s.backend ⟨ns, name⟩ = h.tasks start ⟨ns, name⟩
  /-- The definitions. -/
  definitions : h.definitions s.backend = h.definitions start

/-- **New names**: none is given twice, none is taken, and none is that of a task in use. -/
structure Holdings.New {σ : Type} (h : Holdings σ) (ns : String) (start : σ) (used : List String)
    (names : List String) : Prop where
  /-- None is given twice. -/
  nodup : names.Nodup
  /-- None is taken. -/
  free : ∀ name ∈ names, h.tasks start ⟨ns, name⟩ = none
  /-- None is that of a task in use. -/
  unused : ∀ name ∈ names, name ∉ used

namespace Holdings

variable {σ τ : Type} {h : Holdings σ} {ns : String} {start : σ} {s s₁ : Scene σ τ}
  {used names names' : List String}

theorem Stand.of_same (stand : h.Stand ns start s) (same : h.Same s.backend s₁.backend)
    (grow : s.calls <+: s₁.calls) : h.Stand ns start s₁ := by
  refine ⟨fun name old => ?_, same.definitions.trans stand.definitions⟩
  rw [same.tasks]
  exact stand.tasks name fun mem => old (createdNames_subset grow mem)

theorem New.of_prefix (new : h.New ns start used names) (earlier : names' <+: names) :
    h.New ns start used names' :=
  ⟨new.nodup.sublist earlier.sublist, fun name mem => new.free name (earlier.subset mem),
    fun name mem => new.unused name (earlier.subset mem)⟩

end Holdings

namespace Scene

variable {σ τ : Type} {e : Engine σ τ} {h : Holdings σ} {p : Pass} {x : ItemStatus}
  {s s₁ : Scene σ τ}

section

variable (steady : e.backend.IsSteady h)

include steady

theorem steady_fetch {answer : Option (Except StoreError Task)}
    (fetched : s.fetch e p x = (answer, s₁)) :
    h.Same s.backend s₁.backend ∧
      (∀ t, answer = some (.ok t) → h.tasks s.backend ⟨p.item.ns, x.task⟩ = some t) ∧
      (∀ err, answer = some (.error err) → err.isNotFound = true →
        h.tasks s.backend ⟨p.item.ns, x.task⟩ = none) := by
  have looked := steady.isCancelled s.backend
  obtain ⟨rfl, rfl⟩ | made := s.ask_cases e fetched
  · exact ⟨looked, fun _ given => (nomatch given), fun _ given => (nomatch given)⟩
  obtain ⟨rfl, rfl⟩ := Prod.mk.inj made
  refine ⟨looked.trans (steady.get _ _ _), fun t given => ?_, fun err given gone => ?_⟩
  · rw [← looked.tasks]
    exact steady.found given
  · rw [← looked.tasks]
    exact steady.missing given gone

theorem steady_resolve {answer : Option (Except ResolveError TaskDefinition)}
    (resolved : s.resolve e p x = (answer, s₁)) :
    h.Same s.backend s₁.backend ∧
      ∀ a, answer = some a → h.definitions s.backend x.definition p.item.ns = a := by
  have looked := steady.isCancelled s.backend
  obtain ⟨rfl, rfl⟩ | made := s.ask_cases e resolved
  · exact ⟨looked, fun _ given => nomatch given⟩
  obtain ⟨rfl, rfl⟩ := Prod.mk.inj made
  refine ⟨looked.trans (steady.resolve _ _ _), fun a given => ?_⟩
  rw [← looked.definitions]
  exact steady.resolved given

theorem steady_refused {t : Task} {err : StoreError} (put : s.put e t = (some (.error err), s₁)) :
    h.Same s.backend s₁.backend ∧
      (h.refusal t.spec = some err ∨ (h.tasks s.backend t.key).isSome = true) := by
  have looked := steady.isCancelled s.backend
  obtain ⟨⟨⟩, -⟩ | made := s.ask_cases e put
  obtain ⟨given, rfl⟩ := Prod.mk.inj made
  obtain ⟨same, refused⟩ := steady.refused given
  exact ⟨looked.trans same, refused.imp_right fun taken => by rwa [← looked.tasks]⟩

theorem steady_created {t t' : Task} (put : s.put e t = (some (.ok t'), s₁)) :
    t' = t ∧ h.refusal t.spec = none ∧
      h.tasks s₁.backend = Function.update (h.tasks s.backend) t.key (some t) ∧
      h.definitions s₁.backend = h.definitions s.backend := by
  have looked := steady.isCancelled s.backend
  obtain ⟨⟨⟩, -⟩ | made := s.ask_cases e put
  obtain ⟨given, rfl⟩ := Prod.mk.inj made
  obtain ⟨rfl, accepted, tasks, definitions⟩ := steady.created given
  refine ⟨rfl, accepted, ?_, definitions.trans looked.definitions⟩
  rw [← looked.tasks]
  exact tasks

theorem steady_announce (phase : Phase) (severity : Severity) (reason message : String) :
    h.Same s.backend (s.announce e p phase severity reason message).backend := steady.now _

theorem steady_announceChange (definition : String) (previous : Option TaskState)
    (current : TaskState) :
    h.Same s.backend (s.announceChange e p definition previous current).backend := by
  unfold announceChange
  split
  · exact ⟨rfl, rfl⟩
  · exact steady_announce steady _ _ _ _

theorem steady_refresh (t : Task) : h.Same s.backend (s.refresh e p t x).2.backend := by
  unfold refresh
  split
  · exact (steady.now _).trans (steady.now _)
  · exact ⟨rfl, rfl⟩

theorem steady_welcome (t : Task) : h.Same s.backend (s.welcome e p t x).2.backend :=
  (steady.now _).trans (steady.now _)

end

end Scene

namespace Engine

variable {σ τ : Type} {e : Engine σ τ} {h : Holdings σ} {p : Pass} {prior : List ItemStatus}
  {start : σ} {used : List String} {s s' : Scene σ τ} {o : Outcome}

/-- **A visit of an entry without a task** comes to the verdict, and touches nothing but the key of
the task that it creates. -/
theorem Creation.verdict {x : ItemStatus} (creation : Creation e p x s (.ok o) s')
    (steady : e.backend.IsSteady h) (stand : h.Stand p.item.ns start s)
    (new : h.New p.item.ns start used (createdNames s'.calls)) :
    (p.outlook h start).Grants x o ∧ h.Stand p.item.ns start s' := by
  have resolves {answer : Except ResolveError TaskDefinition} {s₁ : Scene σ τ}
      (resolved : s.resolve e p x = (some answer, s₁)) :
      (p.outlook h start).definitions x.definition p.item.ns = answer := by
    rw [Pass.outlook, ← stand.definitions]
    exact (Scene.steady_resolve steady resolved).2 _ rfl
  have reaches {answer : Except ResolveError TaskDefinition} {draw : Nat} {s₁ s₂ : Scene σ τ}
      (resolved : s.resolve e p x = (some answer, s₁))
      (drawn : s₁.sample e.backend.draw = (draw, s₂)) : h.Same s.backend s₂.backend := by
    obtain rfl := congrArg Prod.snd drawn
    exact (Scene.steady_resolve steady resolved).1.trans (steady.draw _)
  have grow := creation.calls_grow
  cases creation with
  | unresolved resolved =>
    exact ⟨.unresolved (resolves resolved),
      stand.of_same (Scene.steady_resolve steady resolved).1 grow⟩
  | @refused s₁ s₂ s₃ d draw err resolved drawn put =>
    obtain ⟨same, refused⟩ := Scene.steady_refused steady put
    have before := reaches resolved drawn
    refine ⟨.refused (resolves resolved) (refused.resolve_right fun taken => ?_),
      stand.of_same ((before.trans same).trans (Scene.steady_announce steady _ _ _ _)) grow⟩
    -- the name is new, so its key is free
    rw [Scene.createdNames_refused, Scene.createdNames_stamped resolved drawn put] at new
    have free := new.free (p.stamp d draw).name (by simp)
    rw [← stand.tasks _ fun old =>
      (List.nodup_append.1 new.nodup).2.2 _ old _ (List.mem_singleton_self _) rfl] at free
    rw [before.tasks, show (p.stamp d draw).key = ⟨p.item.ns, (p.stamp d draw).name⟩ from rfl,
      free] at taken
    cases taken
  | @created s₁ s₂ s₃ d draw t resolved drawn put =>
    obtain ⟨rfl, accepted, tasks, definitions⟩ := Scene.steady_created steady put
    have before := reaches resolved drawn
    have welcomed := Scene.steady_welcome (p := p) (x := x) (s := s₃) steady (p.stamp d draw)
    refine ⟨.created _ _ (resolves resolved) accepted, fun name old => ?_,
      welcomed.definitions.trans (definitions.trans (before.definitions.trans stand.definitions))⟩
    rw [Scene.createdNames_welcome, Scene.createdNames_stamped resolved drawn put, List.mem_append,
      List.mem_singleton, not_or] at old
    rw [welcomed.tasks, tasks, before.tasks, Function.update_of_ne]
    · exact stand.tasks name old.1
    · exact fun same => old.2 (congrArg TaskKey.name same)

/-- **A visit comes to the verdict on its entry**, whatever was visited before. -/
theorem Course.verdict {x : ItemStatus} (course : Course e p x s (.ok o) s')
    (steady : e.backend.IsSteady h) (stand : h.Stand p.item.ns start s)
    (new : h.New p.item.ns start used (createdNames s'.calls))
    (known : x.hasTask = true → x.task ∈ used) :
    (p.outlook h start).Verdict x o ∧ h.Stand p.item.ns start s' := by
  have grow := course.calls_grow
  -- the task of the entry is none that was created since
  have old (task : x.hasTask = true) :
      h.tasks s.backend ⟨p.item.ns, x.task⟩ = h.tasks start ⟨p.item.ns, x.task⟩ :=
    stand.tasks _ fun mem => new.unused _ (createdNames_subset grow mem) (known task)
  cases course with
  | finished terminal => exact ⟨.finished terminal, stand⟩
  | @read s₁ t live task fetched =>
    obtain ⟨same, given, -⟩ := Scene.steady_fetch steady fetched
    have found := (old task).symm.trans (given t rfl)
    refine ⟨?_, stand.of_same (same.trans (Scene.steady_refresh steady t)) grow⟩
    unfold Scene.refresh
    rw [ItemStatus.completes_of_live live]
    split
    · next ended => exact .completed _ live task found ended
    · next runs => exact .running live task found (Bool.eq_false_iff.2 runs)
  | @lost s₁ _ err _ live task fetched gone creation =>
    obtain ⟨same, -, missing⟩ := Scene.steady_fetch steady fetched
    have lose : s.calls <+: (s₁.lose e p.item.ns x.task).calls := by
      rw [Scene.calls_lose]
      exact (Scene.calls_grow_ask fetched).trans (List.prefix_append _ _)
    obtain ⟨grants, stand⟩ := creation.verdict steady
      (stand.of_same (by rwa [Scene.backend_lose]) lose) new
    exact ⟨.lost live task ((old task).symm.trans (missing err rfl gone)) grants, stand⟩
  | bare live bare creation =>
    obtain ⟨grants, stand⟩ := creation.verdict steady stand new
    exact ⟨.bare live bare grants, stand⟩

/-- **A turn comes to the verdict on its entry**, whatever had its turn before. -/
theorem Turn.verdict {definition : String} (turn : Turn e p prior definition s (.ok o) s')
    (steady : e.backend.IsSteady h) (stand : h.Stand p.item.ns start s)
    (new : h.New p.item.ns start (namedTasks prior) (createdNames s'.calls)) :
    (p.outlook h start).Verdict (statusOrFresh definition prior) o ∧
      h.Stand p.item.ns start s' := by
  have known (task : (statusOrFresh definition prior).hasTask = true) :
      (statusOrFresh definition prior).task ∈ namedTasks prior :=
    List.mem_map.2 ⟨_, List.mem_filter.2 ⟨statusOrFresh_mem task, task⟩, rfl⟩
  cases turn with
  | @done s₁ s₂ _ look course =>
    obtain rfl := congrArg Prod.snd look
    rw [Scene.createdNames_announceChange] at new
    obtain ⟨verdict, stand⟩ := course.verdict steady
      (stand.of_same (steady.isCancelled _) (List.prefix_refl _)) new known
    exact ⟨verdict, stand.of_same (Scene.steady_announceChange steady _ _ _)
      (Scene.calls_grow_announceChange _ _ _ _)⟩

/-- **Every turn of a pass comes to its verdict.** -/
theorem verdict_of_mem_dones (steady : e.backend.IsSteady h) {definitions : List String}
    (r : Reconciliation) {w : World σ τ} (stand : h.Stand p.item.ns start w.scene)
    (new : h.New p.item.ns start (namedTasks prior)
      (createdNames (e.visitAll p prior r definitions w).2.scene.calls)) :
    ∀ d ∈ e.dones p prior definitions w,
      (p.outlook h start).Verdict (statusOrFresh d.definition prior) d.outcome := by
  induction definitions generalizing r w with
  | nil => exact fun d mem => absurd mem List.not_mem_nil
  | cons definition rest ih =>
    have turn := e.turn_turn p prior definition w
    rw [visitAll_cons] at new
    rw [dones]
    generalize e.turn p prior definition w = t at turn new
    obtain ⟨result, w₁⟩ := t
    cases result with
    | error i => exact fun d mem => absurd mem List.not_mem_nil
    | ok o =>
      have later := (e.visitAll_ending p prior rest (r.record o) w₁).calls_grow
      obtain ⟨verdict, stand⟩ := turn.verdict steady stand
        (new.of_prefix (later.filterMap _))
      exact List.forall_mem_cons.2 ⟨verdict, ih (r.record o) stand new⟩

end Engine

end DeployChecks
