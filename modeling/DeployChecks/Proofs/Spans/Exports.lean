import DeployChecks.Proofs.Spans.Findings

/-!
# Proofs/Spans/Exports — every span is exported once

One registry watches a whole run.  Whatever passes and whoever runs the tasks do, each task that a
pass creates has one span, started in the context of that pass, and the span is exported once the
task was found finished or missing, with the ending that this calls for.  After a restart the bound
spans are over for another reason, so there is none here.  Main definition: `Host.findings`; main
statement: `spans_are_exported_once`.
-/

namespace DeployChecks

namespace TaskStore

/-- A report makes no task appear. -/
theorem report_missing {s : TaskStore} {k : TaskKey} (key : TaskKey) (state : TaskState)
    (message : String) (now : Timestamp) (missing : s.tasks.find? k = none) :
    (s.report key state message now).2.tasks.find? k = none := by
  unfold report
  split
  · next t found =>
    rw [Keyed.find?_insert, if_neg, missing]
    rintro rfl
    rw [peek, missing] at found
    cases found
  · exact missing

/-- Neither does a removal. -/
theorem remove_missing {s : TaskStore} {k : TaskKey} (key : TaskKey)
    (missing : s.tasks.find? k = none) : (s.remove key).2.tasks.find? k = none := by
  rw [remove, Keyed.find?_erase]
  split
  · rfl
  · exact missing

end TaskStore

/-- **One registry watches it**: the engine is not restarted, and what a pass starts is recorded. -/
def Move.IsWatchedBy (s : Trace.Sampler) : Move → Prop
  | pass context _ => s.Records context
  | restart => False
  | _ => True

namespace Host

/-! ## The findings of a run -/

section Findings

variable {τ : Type} (u : Setup τ) (h : Host τ)

/-- **What a move finds out**: a pass what its turns find out, any other move nothing. -/
def findingsOf : Move → List Finding
  | .pass context chance => (Memory.engine chance u.observer).findings (h.passOf u context)
      (h.statuses u) (h.declared u) h.world
  | _ => []

/-- **What a run finds out.** -/
def findings (h : Host τ) : List Move → List Finding
  | [] => []
  | m :: moves => h.findingsOf u m ++ (h.step u m).findings moves

end Findings

variable {ε : Type} {emit : PhaseEvent → Act ε (Except EventError Unit)} {group : CheckGroup}
  {h : Host (Watch ε)} {old : List String} {first : Desk} {past : List Finding}

/-- **The tasks and the spans of a host are tracked** by findings. -/
def IsTracked (u : Setup (Watch ε)) (first : Desk) (old : List String) (past : List Finding)
    (h : Host (Watch ε)) : Prop :=
  Tracked first h.item.ns (old ++ createdNames h.calls) (h.entries u) past
    ⟨h.store.tasks, h.watcher.spans⟩

/-- **A pass keeps a host tracked.** -/
theorem isTracked_pass (distinct : (h.declared (.watched emit group)).Nodup)
    {context : Trace.Context} {chance : Chance} (truthful : chance.IsTruthful)
    (records : first.spans.tracer.sampler.Records context)
    (fresh : (old ++ createdNames (h.pass (.watched emit group) context chance).2.calls).Nodup)
    (tracked : h.IsTracked (.watched emit group) first old past) :
    (h.pass (.watched emit group) context chance).2.IsTracked (.watched emit group) first old
      (past ++ h.findingsOf (.watched emit group) (.pass context chance)) := by
  rw [IsTracked, entries_pass distinct,
    show (h.pass (.watched emit group) context chance).2.item.ns = h.item.ns from
      h.ns_step (.watched emit group) (.pass context chance)]
  exact Engine.tracked_visitAll truthful records (p := h.passOf (.watched emit group) context)
    (h.declared (.watched emit group)) .empty h.world fresh tracked

/-- **A move keeps a host tracked.** -/
theorem isTracked_step (distinct : (h.declared (.watched emit group)).Nodup) {m : Move}
    (truthful : m.IsTruthful) (watched : m.IsWatchedBy first.spans.tracer.sampler)
    (fresh : (old ++ createdNames (h.step (.watched emit group) m).calls).Nodup)
    (tracked : h.IsTracked (.watched emit group) first old past) :
    (h.step (.watched emit group) m).IsTracked (.watched emit group) first old
      (past ++ h.findingsOf (.watched emit group) m) := by
  cases m with
  | pass context chance => exact isTracked_pass distinct truthful watched fresh tracked
  | report key state message now =>
    simp only [findingsOf, List.append_nil]
    exact tracked.of_tasks (TaskStore.IsKeyed.report tracked.keyed key state message now)
      fun _ => TaskStore.report_missing key state message now
  | remove key =>
    simp only [findingsOf, List.append_nil]
    exact tracked.of_tasks (TaskStore.IsKeyed.remove tracked.keyed key)
      fun _ => TaskStore.remove_missing key
  | define d | undefine key =>
    simp only [findingsOf, List.append_nil]
    exact tracked
  | restart => cases watched

/-- **A run keeps a host tracked.** -/
theorem isTracked_run (distinct : (h.declared (.watched emit group)).Nodup) {moves : List Move}
    (truthful : ∀ m ∈ moves, m.IsTruthful)
    (watched : ∀ m ∈ moves, m.IsWatchedBy first.spans.tracer.sampler)
    (fresh : (old ++ createdNames (h.run (.watched emit group) moves).calls).Nodup)
    (tracked : h.IsTracked (.watched emit group) first old past) :
    (h.run (.watched emit group) moves).IsTracked (.watched emit group) first old
      (past ++ h.findings (.watched emit group) moves) := by
  induction moves generalizing h past with
  | nil => rwa [findings, List.append_nil]
  | cons m moves ih =>
    rw [List.forall_mem_cons] at truthful watched
    have soon := Engine.nodup_names_of_earlier
      (calls_grow_run (.watched emit group) (h.step (.watched emit group) m) moves) fresh
    rw [findings, ← List.append_assoc]
    exact ih (by rwa [declared_step]) truthful.2 watched.2 fresh
      (isTracked_step distinct truthful.1 watched.1 soon tracked)

/-- **The account of a key** since a first host. -/
def account (first h : Host (Watch ε)) (k : SpanKey) : Account :=
  first.watcher.spans.account h.watcher.spans k

/-- **Every span is exported once, with the right ending.**  One registry watches a run, from no
bound spans on, over any entries and tasks; the names of the tasks that the entries name and of
those that are created never repeat, and that a task is not found is answered only where it is gone.
For every task that a pass creates, one span was started, in the context of that pass.  As long as
the task was neither found finished nor missing since then the span is open; afterwards it was
exported exactly once, with the events and the status that the first such finding calls for.  Every
task that is there and was not in the beginning is one that a pass has created. -/
theorem spans_are_exported_once (emit : PhaseEvent → Act ε (Except EventError Unit))
    (group : CheckGroup) (item : PhaseItem) (store : TaskStore) (registry : DefinitionRegistry)
    (watcher : Watch ε) (moves : List Move) (keyed : store.IsKeyed)
    (unbound : watcher.spans.isEmpty = true) (active : watcher.spans.tracer.isShutDown = false)
    (distinct : (item.declared group).Nodup) (truthful : ∀ m ∈ moves, m.IsTruthful)
    (watched : ∀ m ∈ moves, m.IsWatchedBy watcher.spans.tracer.sampler)
    (fresh : (namedTasks (item.statuses group) ++ createdNames
      ((⟨item, store, registry, watcher, []⟩ : Host (Watch ε)).run (.watched emit group)
        moves).calls).Nodup) :
    let u := Setup.watched emit group
    let first : Host (Watch ε) := ⟨item, store, registry, watcher, []⟩
    let h := first.run u moves
    (∀ before context t after, first.findings u moves = before ++ .created context t :: after →
        Account.Tells context t (first.account h t.spanKey) (firstEnding t.spanKey after)) ∧
      ∀ k t, h.store.peek k = some t → store.peek k = none →
        ∃ context t₀, .created context t₀ ∈ first.findings u moves ∧ t₀.key = k := by
  intro u first h
  have start : Distinct (first.statuses u)
      (namedTasks (item.statuses group) ++ createdNames first.calls) :=
    (Distinct.of_nodup (List.nodup_append.1 fresh).1).grow (List.subset_append_left _ _)
  have begin : first.IsTracked u ⟨store.tasks, watcher.spans⟩ (namedTasks (item.statuses group))
      [] := by
    refine ⟨keyed, fun k t found new => ?_, start.statusOrFresh distinct,
      ⟨rfl, .nil, by simp, by simp⟩, by simp⟩
    rw [show store.tasks.find? k = some t from found] at new
    cases new
  have tracked := isTracked_run (h := first) distinct truthful watched fresh begin
  rw [List.nil_append] at tracked
  have replayed : h.watcher.spans
      = (first.findings u moves).foldl SpanRegistry.replay watcher.spans := tracked.ledger.replayed
  refine ⟨fun before context t after split => ?_, tracked.origin⟩
  have order := tracked.ledger.order
  have recorded := tracked.ledger.recorded
  rw [show first.findings (.watched emit group) moves = _ from split] at order recorded
  rw [account, replayed, split]
  exact SpanRegistry.account_of_created unbound active recorded order

/-- A pass creates a task outside of any span, whoever runs it reports that it has succeeded, and
another pass reads it back. -/
theorem spans_are_exported_once_after_a_report :
    let watch : Watch Unit := ⟨.empty (.new ⟨fun n => n + 1, fun n => n + 1⟩ .followParent), ()⟩
    let first : Host (Watch Unit) := ⟨Sample.item ["smoke"], .empty, .empty "shared", watch, []⟩
    let h := first.run Sample.watched
      [.define (Sample.definition "smoke"), .pass .empty .calm,
        .report ⟨"prod", "pre-smoke-10003"⟩ .succeeded "" default, .pass .empty .calm]
    (h.watcher.spans.tracer.exported.map fun s => (s.status, s.events))
        = [(.ok, [⟨"pre-smoke-10003 has finished", []⟩])] ∧
      ∃ context t after, t.key = ⟨"prod", "pre-smoke-10003"⟩ ∧
        Account.Tells context t (first.account h t.spanKey) (firstEnding t.spanKey after) := by
  intro watch first h
  have created : createdNames h.calls = ["pre-smoke-10003"] := by decide +kernel
  have exported : (h.watcher.spans.tracer.exported.map fun s => (s.status, s.events))
      = [(.ok, [⟨"pre-smoke-10003 has finished", []⟩])] := by decide +kernel
  have stored : (h.store.peek ⟨"prod", "pre-smoke-10003"⟩).isSome = true := by decide +kernel
  have distinct : ((Sample.item ["smoke"]).declared .pre).Nodup := by decide
  have fresh :
      (namedTasks ((Sample.item ["smoke"]).statuses .pre) ++ createdNames h.calls).Nodup := by
    rw [created]
    exact List.nodup_singleton _
  have truthful : ∀ m ∈ [Move.define (Sample.definition "smoke"), .pass .empty .calm,
      .report ⟨"prod", "pre-smoke-10003"⟩ .succeeded "" default, .pass .empty .calm],
      m.IsTruthful := by
    simp [Move.IsTruthful, Chance.isTruthful_calm]
  have records : watch.spans.tracer.sampler.Records .empty := by
    refine (Trace.Sampler.records_followParent .empty).2 ?_
    rintro _ ⟨⟩
  have watched : ∀ m ∈ [Move.define (Sample.definition "smoke"), .pass .empty .calm,
      .report ⟨"prod", "pre-smoke-10003"⟩ .succeeded "" default, .pass .empty .calm],
      m.IsWatchedBy watch.spans.tracer.sampler := by
    simpa [Move.IsWatchedBy] using records
  have result := spans_are_exported_once _ .pre (Sample.item ["smoke"]) .empty (.empty "shared")
    watch _ TaskStore.isKeyed_empty rfl rfl distinct truthful watched fresh
  obtain ⟨t', found⟩ := Option.isSome_iff_exists.1 stored
  obtain ⟨context, t, mem, key⟩ := result.2 _ t' found (Keyed.find?_empty _)
  obtain ⟨before, after, split⟩ := List.append_of_mem mem
  exact ⟨exported, context, t, after, key, result.1 before context t after split⟩

end Host

end DeployChecks
