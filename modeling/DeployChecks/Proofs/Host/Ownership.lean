import DeployChecks.Proofs.Host.Entries

/-!
# Proofs/Host/Ownership — no orphaned and no duplicate task

Every task in the store was created for an entry, and that entry names it as long as the task is
there: through passes that are cut short, tasks that are lost and replaced, and definitions that
come and go.  The invariant couples the store with the entries, done and untouched
(`Accounted`); together with the entries being distinct it gives the main statement,
`tasks_are_owned_once`.
-/

namespace DeployChecks

/-- **A task is accounted for** by the entries of a group: it is where it belongs, and one of the
entries names it. -/
structure Accounted (ns : String) (owner : OwnerReference) (group : CheckGroup)
    (statuses : List ItemStatus) (k : TaskKey) (t : Task) : Prop where
  /-- It stands under its own key. -/
  key : t.key = k
  /-- It is in the namespace of the item. -/
  ns : t.ns = ns
  /-- It belongs to the item. -/
  owner : t.owner = owner
  /-- It is a check of the group. -/
  group : t.spec.checkType = group
  /-- An entry of its definition names it. -/
  entry : ∃ s ∈ statuses, s.hasTask = true ∧ s.task = t.name ∧ s.definition = t.spec.definition

/-- Every task is accounted for. -/
def AllAccounted (ns : String) (owner : OwnerReference) (group : CheckGroup)
    (statuses : List ItemStatus) (tasks : Keyed TaskKey Task) : Prop :=
  ∀ k t, tasks.find? k = some t → Accounted ns owner group statuses k t

/-- Every definition stands under its own key. -/
def DefinitionRegistry.IsKeyed (r : DefinitionRegistry) : Prop :=
  ∀ k d, r.find? k = some d → d.key = k

namespace DefinitionRegistry

variable {r : DefinitionRegistry}

theorem isKeyed_empty (ns : String) : (empty ns).IsKeyed := nofun

theorem IsKeyed.register (h : r.IsKeyed) (d : TaskDefinition) : (r.register d).IsKeyed := by
  intro k d' found
  rw [find?, DefinitionRegistry.register, Keyed.find?_insert] at found
  split at found
  · next e => rw [e, Option.some.inj found]
  · exact h k d' found

theorem IsKeyed.unregister (h : r.IsKeyed) (k : DefinitionKey) : (r.unregister k).2.IsKeyed := by
  intro k' d found
  rw [find?, DefinitionRegistry.unregister, Keyed.find?_erase] at found
  split at found
  · cases found
  · exact h k' d found

/-- **A resolved definition has the name that was asked for.** -/
theorem IsKeyed.name_of_resolve (h : r.IsKeyed) {name ns : String} {d : TaskDefinition}
    (resolved : r.resolve name ns = .ok d) : d.name = name := by
  unfold resolve at resolved
  split at resolved
  · next found =>
    obtain rfl : _ = d := by simpa using resolved
    obtain found | ⟨-, found⟩ := Option.or_eq_some_iff.1 found
    · exact congrArg DefinitionKey.name (h _ _ found)
    · exact congrArg DefinitionKey.name (h _ _ found)
  · cases resolved

end DefinitionRegistry

namespace AllAccounted

variable {ns : String} {owner : OwnerReference} {group : CheckGroup}
  {done rest : List ItemStatus} {a b : ItemStatus} {tasks : Keyed TaskKey Task}

theorem empty {statuses : List ItemStatus} :
    AllAccounted ns owner group statuses TaskStore.empty.tasks := by
  intro k t found
  rw [show TaskStore.empty.tasks.find? k = none from Keyed.find?_empty k] at found
  cases found

/-- An entry may change in everything but its task and definition. -/
theorem replace (h : AllAccounted ns owner group (done ++ a :: rest) tasks)
    (task : b.task = a.task) (definition : b.definition = a.definition) :
    AllAccounted ns owner group (done ++ b :: rest) tasks := by
  intro k t found
  obtain ⟨key, ns, owner, group, s, hs, hasTask, name, spec⟩ := h k t found
  refine ⟨key, ns, owner, group, ?_⟩
  rw [List.mem_append, List.mem_cons] at hs
  obtain hs | rfl | hs := hs
  · exact ⟨s, by simp [hs], hasTask, name, spec⟩
  · exact ⟨b, by simp, by rwa [ItemStatus.hasTask, task], task.trans name, definition.trans spec⟩
  · exact ⟨s, by simp [hs], hasTask, name, spec⟩

/-- An entry may lose a task that is not in the store. -/
theorem clear (h : AllAccounted ns owner group (done ++ a :: rest) tasks)
    (gone : a.hasTask = true → tasks.find? ⟨ns, a.task⟩ = none) :
    AllAccounted ns owner group (done ++ b :: rest) tasks := by
  intro k t found
  obtain ⟨key, hns, owner, group, s, hs, hasTask, name, spec⟩ := h k t found
  refine ⟨key, hns, owner, group, s, ?_, hasTask, name, spec⟩
  rw [List.mem_append, List.mem_cons] at hs
  obtain hs | rfl | hs := hs
  · simp [hs]
  · have missing := gone hasTask
    rw [name, ← hns, show (⟨t.ns, t.name⟩ : TaskKey) = k from key, found] at missing
    cases missing
  · simp [hs]

/-- **An entry without a task may be given a new one.** -/
theorem assign (h : AllAccounted ns owner group (done ++ a :: rest) tasks)
    (bare : a.hasTask = false) {t : Task}
    (new : Accounted ns owner group [b] t.key t) :
    AllAccounted ns owner group (done ++ b :: rest) (tasks.insert t.key t) := by
  intro k t' found
  rw [Keyed.find?_insert] at found
  split at found
  · next e =>
    obtain rfl : t = t' := Option.some.inj found
    obtain ⟨key, ns, owner, group, s, hs, entry⟩ := new
    obtain rfl := List.mem_singleton.1 hs
    exact ⟨e.symm, ns, owner, group, s, by simp, entry⟩
  · exact h.clear (b := b) (fun task => by rw [bare] at task; cases task) k t' found

variable {statuses : List ItemStatus} {s : TaskStore}

/-- A report changes nothing that a task is accounted for by. -/
theorem report (h : AllAccounted ns owner group statuses s.tasks) (k : TaskKey)
    (state : TaskState) (message : String) (now : Timestamp) :
    AllAccounted ns owner group statuses (s.report k state message now).2.tasks := by
  unfold TaskStore.report
  split
  · next t found =>
    intro k' t' found'
    rw [Keyed.find?_insert] at found'
    split at found'
    · next e =>
      obtain rfl := Option.some.inj found'
      obtain ⟨key, ns, owner, group, entry⟩ := h k t found
      exact ⟨key.trans e.symm, ns, owner, group, entry⟩
    · exact h k' t' found'
  · exact h

/-- A task that is removed need not be accounted for. -/
theorem remove (h : AllAccounted ns owner group statuses s.tasks) (k : TaskKey) :
    AllAccounted ns owner group statuses (s.remove k).2.tasks := by
  intro k' t found
  rw [TaskStore.remove, Keyed.find?_erase] at found
  split at found
  · cases found
  · exact h k' t found

end AllAccounted

/-- **Every task is accounted for**, and every definition stands under its own key. -/
structure Settled (item : PhaseItem) (group : CheckGroup) (statuses : List ItemStatus)
    (tasks : Keyed TaskKey Task) (registry : DefinitionRegistry) : Prop where
  /-- The tasks. -/
  accounted : AllAccounted item.ns item.ownerReference group statuses tasks
  /-- The definitions. -/
  keyed : registry.IsKeyed

/-! ## One turn -/

namespace Engine

variable {τ : Type} {c : Chance} {o : Observer τ} {p : Pass} {prior done rest : List ItemStatus}
  {s s' : Scene Memory τ}

theorem settled_same {statuses : List ItemStatus} {m m' : Memory}
    (h : Settled p.item p.group statuses m.store.tasks m.registry) (same : Memory.Same m m') :
    Settled p.item p.group statuses m'.store.tasks m'.registry := by
  rw [same.tasks, same.registry]
  exact h

theorem Creation.settled {status : ItemStatus} {out : Outcome}
    (creation : Creation (Memory.engine c o) p status s (.ok out) s')
    (bare : status.hasTask = false)
    (h : Settled p.item p.group (done ++ status :: rest) s.backend.store.tasks
      s.backend.registry) :
    Settled p.item p.group (done ++ out.status :: rest) s'.backend.store.tasks
      s'.backend.registry := by
  cases creation with
  | unresolved resolved => exact settled_same h (Scene.resolve_cases resolved).1
  | refused resolved drawn put =>
    exact settled_same h
      ((Scene.same_of_refused resolved drawn put).trans (Scene.same_announce _ _ _ _))
  | created resolved drawn put =>
    obtain ⟨rfl, -, tasks, registry⟩ := Scene.created_of_put resolved drawn put
    have name := h.keyed.name_of_resolve (Scene.resolved_of_resolve resolved)
    refine settled_same ⟨?_, registry ▸ h.keyed⟩ (Scene.same_welcome _ status)
    rw [tasks]
    refine h.accounted.assign bare ⟨rfl, rfl, rfl, rfl, _, List.mem_singleton_self _, ?_, rfl, ?_⟩
    · exact ItemStatus.hasTask_iff.2 (p.name_stamp_ne_empty _ _)
    · exact name.symm

theorem Course.settled (truthful : c.IsTruthful) {status : ItemStatus} {out : Outcome}
    (course : Course (Memory.engine c o) p status s (.ok out) s')
    (h : Settled p.item p.group (done ++ status :: rest) s.backend.store.tasks
      s.backend.registry) :
    Settled p.item p.group (done ++ out.status :: rest) s'.backend.store.tasks
      s'.backend.registry := by
  have definition := course.definition
  cases course with
  | finished => exact h
  | read _ _ fetched =>
    refine settled_same ⟨?_, h.keyed⟩ ((Scene.fetch_cases fetched).1.trans (Scene.same_refresh _ _))
    exact h.accounted.replace (Scene.task_refresh _ status) definition
  | lost _ _ fetched gone creation =>
    have missing := Scene.missing_of_fetch truthful fetched gone
    refine creation.settled rfl (settled_same ⟨?_, h.keyed⟩
      ((Scene.fetch_cases fetched).1.trans (Scene.same_lose _ _)))
    exact h.accounted.clear fun _ => missing
  | bare _ bare creation => exact creation.settled bare h

/-- **One turn keeps every task accounted for**, if nobody lies about a lost task. -/
theorem Turn.settled (truthful : c.IsTruthful) {definition : String} {out : Outcome}
    (turn : Turn (Memory.engine c o) p prior definition s (.ok out) s')
    (h : Settled p.item p.group (done ++ statusOrFresh definition prior :: rest)
      s.backend.store.tasks s.backend.registry) :
    Settled p.item p.group (done ++ out.status :: rest) s'.backend.store.tasks
      s'.backend.registry := by
  cases turn with
  | done look course =>
    obtain rfl := congrArg Prod.snd look
    exact settled_same (course.settled truthful (settled_same h Scene.same_look))
      (Scene.same_announceChange _ _ _)

/-- **Every task stays accounted for in a pass.** -/
def settledEntries (truthful : c.IsTruthful) (o : Observer τ) (p : Pass)
    (prior : List ItemStatus) : PassInvariant (Memory.engine c o) p prior where
  Good _ := True
  Holds done rest s :=
    Settled p.item p.group (done ++ rest) s.backend.store.tasks s.backend.registry
  Left done rest s :=
    Settled p.item p.group (done ++ rest) s.backend.store.tasks s.backend.registry
  good_of_earlier _ _ := trivial
  step _ h turn := by
    rw [List.append_assoc]
    exact turn.settled truthful h
  finish h := h
  stop _ h turn := settled_same h turn.same_of_error

end Engine

/-! ## A whole run -/

namespace Host

variable {τ : Type} {u : Setup τ} {h : Host τ}

theorem settled_step (distinct : (h.declared u).Nodup) {m : Move} (truthful : m.IsTruthful)
    (settled : Settled h.item u.group (h.entries u) h.store.tasks h.registry) :
    Settled (h.step u m).item u.group ((h.step u m).entries u) (h.step u m).store.tasks
      (h.step u m).registry := by
  cases m with
  | pass context chance =>
    obtain ⟨done, rest, kept, -, holds⟩ :=
      (Engine.settledEntries truthful u.observer (h.passOf u context) (h.statuses u)).left_ending
        (h.pass_ending u context chance) trivial settled
    obtain ⟨status, item⟩ := h.item_step u (.pass context chance)
    rw [step, entries_pass distinct, kept]
    refine ⟨?_, holds.keyed⟩
    rw [show (h.pass u context chance).2.item = _ from item, PhaseItem.ns_withStatus,
      PhaseItem.ownerReference_withStatus]
    exact holds.accounted
  | report key state message now =>
    exact ⟨settled.accounted.report key state message now, settled.keyed⟩
  | remove key => exact ⟨settled.accounted.remove key, settled.keyed⟩
  | define d => exact ⟨settled.accounted, settled.keyed.register d⟩
  | undefine key => exact ⟨settled.accounted, settled.keyed.unregister key⟩
  | restart => exact settled

/-- **Every task stays accounted for in a run.** -/
theorem settled_run (distinct : (h.declared u).Nodup) {moves : List Move}
    (truthful : ∀ m ∈ moves, m.IsTruthful)
    (settled : Settled h.item u.group (h.entries u) h.store.tasks h.registry) :
    Settled (h.run u moves).item u.group ((h.run u moves).entries u) (h.run u moves).store.tasks
      (h.run u moves).registry := by
  induction moves generalizing h with
  | nil => exact settled
  | cons m moves ih =>
    rw [List.forall_mem_cons] at truthful
    exact ih (by rwa [declared_step]) truthful.2 (settled_step distinct truthful.1 settled)

/-- What accounts for a task is stored. -/
theorem accounted_statuses {ns : String} {owner : OwnerReference} {k : TaskKey} {t : Task}
    (accounted : Accounted ns owner u.group (h.entries u) k t) :
    Accounted ns owner u.group (h.statuses u) k t := by
  obtain ⟨key, ns, owner, group, s, hs, hasTask, name, definition⟩ := accounted
  obtain ⟨d, -, rfl⟩ := List.mem_map.1 hs
  exact ⟨key, ns, owner, group, _, statusOrFresh_mem hasTask, hasTask, name, definition⟩

end Host

/-- **A task has one owner**: it belongs to the item and the group, and exactly one entry names it,
the one of its definition. -/
structure OwnedOnce (item : PhaseItem) (group : CheckGroup) (statuses : List ItemStatus)
    (t : Task) : Prop where
  /-- It is in the namespace of the item. -/
  ns : t.ns = item.ns
  /-- It belongs to the item. -/
  owner : t.owner = item.ownerReference
  /-- It is a check of the group. -/
  group : t.spec.checkType = group
  /-- One entry names it. -/
  entry : ∃ s, statuses.filter (·.task = t.name) = [s] ∧ s.definition = t.spec.definition

namespace Host

/-- **No task is orphaned and none is named twice.**  A host that starts without tasks and entries
comes, by whatever moves, to a store of which every task has one owner, and to entries no two of
which name the same task.  Whatever fails may fail in any way but one: that a task is not found is
answered only where it is gone, for a pass takes this answer to mean that, and replaces the task. -/
theorem tasks_are_owned_once (u : Setup τ) (item : PhaseItem) (defaultNamespace : String)
    (watcher : τ) (moves : List Move) (bare : item.statuses u.group = [])
    (distinct : (item.declared u.group).Nodup) (truthful : ∀ m ∈ moves, m.IsTruthful)
    (fresh : (createdNames ((start item defaultNamespace watcher).run u moves).calls).Nodup) :
    let h := (start item defaultNamespace watcher).run u moves
    (∀ k t, h.store.peek k = some t → t.key = k ∧ OwnedOnce item u.group (h.statuses u) t) ∧
      (h.statuses u).Pairwise ItemStatus.Apart := by
  intro h
  have begin : Settled item u.group ((start item defaultNamespace watcher).entries u)
      (start item defaultNamespace watcher).store.tasks
      (start item defaultNamespace watcher).registry :=
    ⟨AllAccounted.empty, DefinitionRegistry.isKeyed_empty defaultNamespace⟩
  have settled := settled_run (u := u) (h := start item defaultNamespace watcher) distinct truthful
    begin
  have apart : Distinct (h.statuses u) ([] ++ createdNames h.calls) := by
    refine distinct_run (u := u) (h := start item defaultNamespace watcher) distinct moves
      (by simpa using fresh) ?_
    rw [show (start item defaultNamespace watcher).statuses u = [] from bare]
    exact ⟨.nil, fun s hs => absurd hs List.not_mem_nil⟩
  refine ⟨fun k t found => ?_, apart.apart⟩
  obtain ⟨key, ns, owner, group, s, hs, hasTask, name, definition⟩ :=
    accounted_statuses (settled.accounted k t found)
  refine ⟨key, ?_, ?_, group, s, ?_, definition⟩
  · rw [ns, ns_run]
    rfl
  · rw [owner, ownerReference_run]
    rfl
  · rw [← name]
    exact apart.filter_task hs hasTask

/-- Of two tasks one cannot be read, so that a pass fails, and is then lost and replaced, while the
other one succeeds. -/
theorem tasks_are_owned_once_after_a_loss :
    let first := start (Sample.item ["smoke", "load"]) "shared" ()
    let created := first.run Sample.setup Sample.untilCreated
    let h := first.run Sample.setup Sample.untilReplaced
    ((created.pass Sample.setup .empty Sample.unread).1 = .error (.fetch "smoke" "pre-smoke-10003"
        (.unavailable "down") (created.statuses Sample.setup)) ∧
      createdNames h.calls = ["pre-smoke-10003", "pre-load-10012", "pre-smoke-10505"] ∧
      h.store.size = 2) ∧
      (∀ k t, h.store.peek k = some t → t.key = k ∧
        OwnedOnce (Sample.item ["smoke", "load"]) .pre (h.statuses Sample.setup) t) ∧
      (h.statuses Sample.setup).Pairwise ItemStatus.Apart := by
  intro first created h
  have stopped : (created.pass Sample.setup .empty Sample.unread).1 = .error (.fetch "smoke"
      "pre-smoke-10003" (.unavailable "down") (created.statuses Sample.setup)) := by
    decide +kernel
  have names : createdNames h.calls
      = ["pre-smoke-10003", "pre-load-10012", "pre-smoke-10505"] := by decide +kernel
  have stored : h.store.size = 2 := by decide +kernel
  have distinct : ((Sample.item ["smoke", "load"]).declared .pre).Nodup := by decide
  have fresh : (createdNames h.calls).Nodup := by
    rw [names]
    decide
  exact ⟨⟨stopped, names, stored⟩, tasks_are_owned_once Sample.setup
    (Sample.item ["smoke", "load"]) "shared" () Sample.untilReplaced rfl distinct
    Sample.isTruthful_untilReplaced fresh⟩

end Host

end DeployChecks
