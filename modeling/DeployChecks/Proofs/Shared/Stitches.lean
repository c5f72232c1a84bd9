import DeployChecks.Proofs.Host.Bindings
import DeployChecks.Proofs.Host.FixedPoint
import DeployChecks.Proofs.Shared.Weave

/-!
# Proofs/Shared/Stitches — what stitches leave in a shared memory

Passes share the tasks, the definitions and the spans.  As long as the names of new tasks are new,
every stitch is the verdict on its own entry, made from what there was before all of them
(`Weaving.verdicts`), and what is in the memory afterwards can be told from the stitches: which tasks
were added (`Weaving.adds`), and which keys have their span bound (`Weaving.isBound`).  A stitch
concerns two keys at most, that of the task of its entry and that of the task that it creates.  Main
definitions: `Outcome.newNames`, `Growth`, `Adds`, `Outcome.Rebinds`.
-/

namespace DeployChecks

/-! ## New tasks -/

/-- The names of the tasks that came with an outcome. -/
def Outcome.newNames : Outcome → List String
  | created x => [x.task]
  | unchanged _ | refreshed _ _ | skipped _ _ => []

/-- **What a visit of an entry does to the tasks**: nothing, or it adds the task that it creates. -/
inductive Growth (p : Pass) (defs : DefinitionRegistry) (definition : String)
    (tasks tasks' : Keyed TaskKey Task) : Outcome → Prop
  /-- Nothing is added. -/
  | same {o : Outcome} (uncreated : o.isCreation = false) (same : tasks' = tasks) :
    Growth p defs definition tasks tasks' o
  /-- The new task is added. -/
  | added {x : ItemStatus} {t : TaskDefinition} {draw : Nat}
      (resolved : defs.resolve definition p.item.ns = .ok t)
      (name : x.task = (p.stamp t draw).name)
      (added : tasks' = tasks.insert (p.stamp t draw).key (p.stamp t draw)) :
    Growth p defs definition tasks tasks' (.created x)

namespace Engine

variable {τ : Type} {c : Chance} {obs : Observer τ} {p : Pass} {prior : List ItemStatus}
  {s s' : Scene Memory τ} {o : Outcome}

theorem Creation.growth {x : ItemStatus}
    (creation : Creation (Memory.engine c obs) p x s (.ok o) s') (accepted : ¬ o.IsRefused) :
    createdNames s'.calls = createdNames s.calls ++ o.newNames ∧
      Growth p s.backend.registry x.definition s.backend.store.tasks s'.backend.store.tasks o := by
  cases creation with
  | unresolved resolved =>
    refine ⟨?_, .same rfl (Scene.resolve_cases resolved).1.tasks⟩
    rw [Scene.createdNames_resolve resolved]
    exact (List.append_nil _).symm
  | refused => exact absurd ⟨_, _, rfl⟩ accepted
  | @created s₁ s₂ s₃ d draw t resolved drawn put =>
    obtain ⟨rfl, -, tasks, -⟩ := Scene.created_of_put resolved drawn put
    refine ⟨?_, .added (Scene.resolved_of_resolve resolved) rfl ?_⟩
    · rw [Scene.createdNames_welcome, Scene.createdNames_stamped resolved drawn put]
      rfl
    · rw [(Scene.same_welcome _ x).tasks, tasks]

theorem Course.growth {x : ItemStatus}
    (course : Course (Memory.engine c obs) p x s (.ok o) s') (accepted : ¬ o.IsRefused) :
    createdNames s'.calls = createdNames s.calls ++ o.newNames ∧
      Growth p s.backend.registry x.definition s.backend.store.tasks s'.backend.store.tasks o := by
  cases course with
  | finished => exact ⟨(List.append_nil _).symm, .same rfl rfl⟩
  | @read s₁ t live task fetched =>
    have uncreated : (s₁.refresh (Memory.engine c obs) p t x).1.newNames = [] ∧
        (s₁.refresh (Memory.engine c obs) p t x).1.isCreation = false := by
      unfold Scene.refresh
      split <;> exact ⟨rfl, rfl⟩
    refine ⟨?_, .same uncreated.2 ?_⟩
    · rw [Scene.createdNames_refresh, Scene.createdNames_fetch fetched, uncreated.1,
        List.append_nil]
    · exact ((Scene.fetch_cases fetched).1.trans (Scene.same_refresh _ _)).tasks
  | lost live task fetched gone creation =>
    obtain ⟨names, growth⟩ := creation.growth accepted
    rw [Scene.createdNames_lose, Scene.createdNames_fetch fetched] at names
    rw [Scene.backend_lose, (Scene.fetch_cases fetched).1.tasks,
      (Scene.fetch_cases fetched).1.registry] at growth
    exact ⟨names, growth⟩
  | bare _ _ creation => exact creation.growth accepted

/-- **What a turn does to the tasks**, unless a task is refused. -/
theorem Turn.growth {definition : String}
    (turn : Turn (Memory.engine c obs) p prior definition s (.ok o) s')
    (accepted : ¬ o.IsRefused) :
    createdNames s'.calls = createdNames s.calls ++ o.newNames ∧
      Growth p s.backend.registry definition s.backend.store.tasks s'.backend.store.tasks o := by
  cases turn with
  | done look course =>
    obtain rfl := congrArg Prod.snd look
    obtain ⟨names, growth⟩ := course.growth accepted
    rw [definition_statusOrFresh] at growth
    rw [Scene.createdNames_announceChange, (Scene.same_announceChange _ _ _).tasks]
    exact ⟨names, growth⟩

end Engine

/-- **No task is refused**, where the verdict refuses none. -/
theorem Outlook.Verdict.not_isRefused {v : Outlook} {x : ItemStatus} {o : Outcome}
    (verdict : v.Verdict x o) (accepting : ∀ spec, v.refusal spec = none) : ¬ o.IsRefused := by
  have grants {y : ItemStatus} (grants : v.Grants y o) : ¬ o.IsRefused := by
    rintro ⟨z, text, same⟩
    cases grants with
    | @unresolved err =>
      have reason : err.skipReason = .creationFailed text := (Outcome.skipped.inj same).2
      unfold ResolveError.skipReason at reason
      split at reason <;> cases reason
    | refused _ refused => cases (accepting _).symm.trans refused
    | created => cases same
  cases verdict with
  | lost _ _ _ granted | bare _ _ granted => exact grants granted
  | _ => exact fun ⟨_, _, same⟩ => nomatch same

/-! ## The memory that is shared -/

/-- What the memory holds, where no task is refused. -/
abbrev Memory.contents : Holdings Memory := Memory.holdings fun _ => none

theorem Memory.isSteady {c : Chance} (orderly : c.IsOrderly) :
    (Memory.backend c).IsSteady Memory.contents :=
  isSteady_rejecting orderly fun _ => none

/-- **Names that are new**: none is given twice, and none is in use. -/
structure AreNew (used names : List String) : Prop where
  /-- None is given twice. -/
  nodup : names.Nodup
  /-- None is in use. -/
  unused : ∀ name ∈ names, name ∉ used

theorem AreNew.of_earlier {used : List String} {l l' : List Call}
    (new : AreNew used (createdNames l')) (earlier : l <+: l') : AreNew used (createdNames l) :=
  ⟨new.nodup.sublist (earlier.filterMap _).sublist,
    fun name mem => new.unused name (createdNames_subset earlier mem)⟩

/-- **The names in use are known**: those of the tasks of entries, and those of the tasks that are
there. -/
structure Memory.Known {ι : Type} (m : Memory) (passes : ι → Pass) (used : List String) : Prop where
  /-- The entries. -/
  entries : ∀ i, namedTasks ((passes i).item.statuses (passes i).group) ⊆ used
  /-- The tasks. -/
  stored : ∀ k, (m.store.peek k).isSome = true → k.name ∈ used

/-- **The memory is as it was**, but for the tasks that were created since. -/
structure Memory.Stands {τ : Type} (m : Memory) (s : Scene Memory τ) : Prop where
  /-- The tasks. -/
  tasks : ∀ k : TaskKey, k.name ∉ createdNames s.calls →
    s.backend.store.peek k = m.store.peek k
  /-- The definitions. -/
  definitions : s.backend.registry.resolve = m.registry.resolve

section

variable {ι τ : Type} {c : Chance} {obs : Observer τ} {passes : ι → Pass} {m : Memory}
  {used : List String} {s s' : Scene Memory τ}

/-- **A turn comes to the verdict on its entry**, and leaves the memory as it was, but for the task
that it creates. -/
theorem Engine.Turn.stands {i : ι} {definition : String} {o : Outcome}
    (turn : Turn (Memory.engine c obs) (passes i) ((passes i).item.statuses (passes i).group)
      definition s (.ok o) s') (orderly : c.IsOrderly) (known : m.Known passes used)
    (new : AreNew used (createdNames s'.calls)) (stands : m.Stands s) :
    ((passes i).outlook Memory.contents m).Verdict ((passes i).entry definition) o ∧
      createdNames s'.calls = createdNames s.calls ++ o.newNames ∧
      Growth (passes i) m.registry definition s.backend.store.tasks s'.backend.store.tasks o ∧
      m.Stands s' := by
  obtain ⟨verdict, stand⟩ := turn.verdict (Memory.isSteady orderly)
    ⟨fun name old => stands.tasks ⟨(passes i).item.ns, name⟩ old, stands.definitions⟩
    ⟨new.nodup, fun name mem => by
      refine Option.not_isSome_iff_eq_none.1 fun taken => new.unused name mem ?_
      exact known.stored ⟨(passes i).item.ns, name⟩ taken,
      fun name mem used => new.unused name mem (known.entries i used)⟩
  obtain ⟨names, growth⟩ := turn.growth (verdict.not_isRefused fun _ => rfl)
  have defs : s.backend.registry.resolve definition (passes i).item.ns
      = m.registry.resolve definition (passes i).item.ns := by rw [stands.definitions]
  refine ⟨verdict, names, ?_, fun k old => ?_, stand.definitions⟩
  · cases growth with
    | same uncreated same => exact .same uncreated same
    | added resolved name added => exact .added (defs.symm.trans resolved) name added
  · rw [names, List.mem_append, not_or] at old
    rw [← stands.tasks k old.1]
    cases growth with
    | same _ same => rw [TaskStore.peek, same, TaskStore.peek]
    | @added x t draw _ name added =>
      rw [TaskStore.peek, added, Keyed.find?_insert, if_neg, TaskStore.peek]
      rintro rfl
      exact old.2 (by simp [Outcome.newNames, name, Task.key])

/-! ## All stitches -/

/-- The entry that a stitch starts from. -/
def Stitch.entry (passes : ι → Pass) (q : Stitch ι) : ItemStatus :=
  (passes q.pass).entry q.outcome.status.definition

/-- The key of the task that a stitch leaves. -/
def Stitch.key (passes : ι → Pass) (q : Stitch ι) : TaskKey :=
  ⟨(passes q.pass).item.ns, q.outcome.status.task⟩

/-- The names of the tasks that came with stitches. -/
def newNames (stitches : List (Stitch ι)) : List String :=
  stitches.flatMap (·.outcome.newNames)

/-- **What stitches add to the tasks**: those that they create, and under all other keys nothing. -/
structure Adds (passes : ι → Pass) (defs : DefinitionRegistry) (stitches : List (Stitch ι))
    (store store' : TaskStore) : Prop where
  /-- The tasks that are created. -/
  created : ∀ q ∈ stitches, q.outcome.isCreation = true → ∃ t draw,
    defs.resolve q.outcome.status.definition (passes q.pass).item.ns = .ok t ∧
      q.outcome.status.task = ((passes q.pass).stamp t draw).name ∧
      store'.peek (q.key passes) = some ((passes q.pass).stamp t draw)
  /-- All others. -/
  others : ∀ k, (∀ q ∈ stitches, q.outcome.isCreation = true → k ≠ q.key passes) →
    store'.peek k = store.peek k

namespace Weaving

variable [DecidableEq ι] {left left' : ι → List String} {stitches : List (Stitch ι)}

theorem growsTo (weaving : Weaving (Memory.engine c obs) passes left s stitches left' s') :
    s.backend.store.GrowsTo s'.backend.store := by
  induction weaving with
  | nil => exact .of_tasks rfl
  | cons _ turn _ _ ih => exact turn.growsTo.trans ih

/-- **Every stitch is the verdict on its own entry**, whatever was done before, and the names that
were created are those of the stitches. -/
theorem verdicts (weaving : Weaving (Memory.engine c obs) passes left s stitches left' s')
    (orderly : c.IsOrderly) (known : m.Known passes used)
    (new : AreNew used (createdNames s'.calls)) (stands : m.Stands s) :
    (∀ q ∈ stitches,
        ((passes q.pass).outlook Memory.contents m).Verdict (q.entry passes) q.outcome) ∧
      createdNames s'.calls = createdNames s.calls ++ newNames stitches := by
  induction weaving with
  | nil => exact ⟨fun _ mem => absurd mem List.not_mem_nil, (List.append_nil _).symm⟩
  | @cons _ _ s s₁ s₂ q _ rest _ turn _ more ih =>
    obtain ⟨verdict, names, -, stands⟩ :=
      turn.stands orderly known (new.of_earlier more.calls_grow) stands
    obtain ⟨verdicts, later⟩ := ih new stands
    refine ⟨List.forall_mem_cons.2 ⟨verdict, verdicts⟩, ?_⟩
    rw [later, names, List.append_assoc]
    rfl

/-- **The tasks after all stitches.** -/
theorem adds (weaving : Weaving (Memory.engine c obs) passes left s stitches left' s')
    (orderly : c.IsOrderly) (known : m.Known passes used)
    (new : AreNew used (createdNames s'.calls)) (stands : m.Stands s) :
    Adds passes m.registry stitches s.backend.store s'.backend.store := by
  induction weaving with
  | nil => exact ⟨fun _ mem => absurd mem List.not_mem_nil, fun _ _ => rfl⟩
  | @cons _ _ s s₁ s₂ q _ rest _ turn _ more ih =>
    obtain ⟨-, -, growth, stands⟩ :=
      turn.stands orderly known (new.of_earlier more.calls_grow) stands
    obtain ⟨created, others⟩ := ih new stands
    have grows := more.growsTo
    obtain ⟨i, o, calls⟩ := q
    dsimp only at growth
    refine ⟨List.forall_mem_cons.2 ⟨fun creation => ?_, created⟩, fun k old => ?_⟩
    · cases growth with
      | same uncreated => exact nomatch creation.symm.trans uncreated
      | @added x t draw resolved name added =>
        refine ⟨t, draw, resolved, name, grows _ _ ?_⟩
        rw [TaskStore.peek, added, Keyed.find?_insert, if_pos]
        exact congrArg (TaskKey.mk (passes i).item.ns) name
    · obtain ⟨first, old⟩ := List.forall_mem_cons.1 old
      rw [others k old]
      cases growth with
      | same _ same => rw [TaskStore.peek, same, TaskStore.peek]
      | @added x t draw _ name added =>
        rw [TaskStore.peek, added, Keyed.find?_insert, if_neg, TaskStore.peek]
        rintro rfl
        exact first rfl (congrArg (TaskKey.mk (passes i).item.ns) name.symm)

end Weaving

end

/-! ## Bound keys -/

namespace Outcome

variable (p : Pass) (k : SpanKey) (o : Outcome)

/-- A pass binds a key with an outcome: it is that of an entry to be watched. -/
def Binds : Prop := o.status.IsWatched ∧ k = .forTask p.item.ns o.status.task

/-- A pass gives up a key for an outcome: it is that of the entry to start from. -/
def Releases : Prop :=
  (p.entry o.status.definition).IsWatched ∧
    k = .forTask p.item.ns (p.entry o.status.definition).task

/-- An outcome concerns a key. -/
def Touches : Prop := o.Binds p k ∨ o.Releases p k

/-- **What an outcome does to a key**: it may be bound, or else given up. -/
def Rebinds (bound : Prop) (o : Outcome) : Prop := o.Binds p k ∨ ¬o.Releases p k ∧ bound

variable {p k o}

theorem rebinds_of_untouched (untouched : ¬o.Touches p k) (bound : Prop) :
    o.Rebinds p k bound = bound := by
  rw [Touches, not_or] at untouched
  simp [Rebinds, untouched]

end Outcome

/-- A visit binds the key of the entry that it leaves, if it is to be watched, and else it unbinds
the key of the entry that it starts from. -/
theorem Rebinding.isBound_iff {ε : Type} {ns : String} {x b : ItemStatus} {cut : List SpanKey}
    {s s' : Scene Memory (Watch ε)} (rebinding : Rebinding ns x b cut s s') (k : SpanKey) :
    s'.IsBound k ↔ (b.IsWatched ∧ k = .forTask ns b.task) ∨
      (¬(x.IsWatched ∧ k = .forTask ns x.task) ∧ s.IsBound k) := by
  rw [rebinding.bound]
  constructor
  · rintro (stays | ⟨uncut, bound⟩)
    · exact .inl stays
    · by_cases own : x.IsWatched ∧ k = .forTask ns x.task
      · obtain ⟨watched, rfl⟩ := own
        obtain ⟨watched', same⟩ | gone := rebinding.kept watched
        · exact .inl ⟨watched', by rw [same]⟩
        · exact absurd gone uncut
      · exact .inr ⟨own, bound⟩
  · rintro (stays | ⟨other, bound⟩)
    · exact .inl stays
    · exact .inr ⟨fun gone => other (rebinding.own k gone), bound⟩

section

variable {ι : Type} {passes : ι → Pass} {stitches : List (Stitch ι)} {k : SpanKey}

/-- Stitches that do not touch a key leave it as it is. -/
theorem foldl_rebinds_of_untouched
    (untouched : ∀ q ∈ stitches, ¬q.outcome.Touches (passes q.pass) k) (bound : Prop) :
    stitches.foldl (fun bound q => q.outcome.Rebinds (passes q.pass) k bound) bound = bound := by
  induction stitches with
  | nil => rfl
  | cons q stitches ih =>
    obtain ⟨first, rest⟩ := List.forall_mem_cons.1 untouched
    rw [List.foldl_cons, Outcome.rebinds_of_untouched first, ih rest]

variable [DecidableEq ι] {i : ι}

/-- If the stitches that touch a key are those of one pass, no others matter. -/
theorem foldl_rebinds_of_pass
    (own : ∀ q ∈ stitches, q.outcome.Touches (passes q.pass) k → q.pass = i) (bound : Prop) :
    stitches.foldl (fun bound q => q.outcome.Rebinds (passes q.pass) k bound) bound
      = (outcomesOf i stitches).foldl (fun bound o => o.Rebinds (passes i) k bound) bound := by
  induction stitches generalizing bound with
  | nil => rfl
  | cons q stitches ih =>
    obtain ⟨first, rest⟩ := List.forall_mem_cons.1 own
    rw [List.foldl_cons, ih rest, outcomesOf, outcomesOf, ofPass_cons]
    split
    · next same =>
      subst same
      rw [List.map_cons, List.foldl_cons]
    · next other => rw [Outcome.rebinds_of_untouched fun touches => other (first touches)]

end

section

variable {ι ε : Type} [DecidableEq ι] {emit : PhaseEvent → Act ε (Except EventError Unit)}
  {c : Chance} {passes : ι → Pass} {left left' : ι → List String} {s s' : Scene Memory (Watch ε)}
  {stitches : List (Stitch ι)}

/-- **The keys that are bound after all stitches.** -/
theorem Weaving.isBound (weaving : Weaving (Watch.engine c emit) passes left s stitches left' s')
    (keyed : s.backend.store.IsKeyed) (k : SpanKey) :
    s'.IsBound k ↔
      stitches.foldl (fun bound q => q.outcome.Rebinds (passes q.pass) k bound) (s.IsBound k) := by
  induction weaving with
  | nil => exact Iff.rfl
  | @cons _ _ s s₁ _ q _ _ _ turn _ _ ih =>
    obtain ⟨cut, rebinding⟩ := turn.rebinding keyed
    have first : s₁.IsBound k = q.outcome.Rebinds (passes q.pass) k (s.IsBound k) :=
      propext (rebinding.isBound_iff k)
    rw [ih (turn.isKeyed keyed), List.foldl_cons, first]

end

end DeployChecks
