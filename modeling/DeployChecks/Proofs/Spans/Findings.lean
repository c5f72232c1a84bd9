import DeployChecks.Proofs.Spans.Replay

/-!
# Proofs/Spans/Findings — what a pass finds out

What a pass finds out about tasks lies in the answers of the backend: a task that is asked for is
read back or missing, a task that is put in is created.  The findings of a pass are collected visit
by visit, next to the visits themselves.  Between two turns the spans are the findings so far,
replayed; the findings stand in their order, and none of them speaks against a task that is still
watched.  Main definitions: `Engine.findings`, `Ledger`, `Tracked`; main statement:
`tracked_visitAll`.
-/

namespace DeployChecks

open Trace (Context Sampler)

/-! ## The findings of a pass -/

namespace Scene

variable {σ τ : Type} (s : Scene σ τ) (e : Engine σ τ) (p : Pass) (status : ItemStatus)

/-- **What creating a task finds out**: the task, if it is created. -/
def makings : List Finding :=
  match s.resolve e p status with
  | (some (.ok d), s₁) =>
    let r := s₁.sample e.backend.draw
    match r.2.put e (p.stamp d r.1) with
    | (some (.ok t), _) => [.created p.context t]
    | _ => []
  | _ => []

/-- **What a visit finds out**: that the task is there, or that it is missing and what comes of
replacing it; without a task, what comes of creating one. -/
def findings : List Finding :=
  if status.isTerminal then []
  else if status.hasTask then
    match s.fetch e p status with
    | (some (.ok t), _) => [.read p.context t]
    | (some (.error err), s₁) =>
      if err.isNotFound then
        .missing p.item.ns status.task ::
          (s₁.lose e p.item.ns status.task).makings e p status.withoutTask
      else []
    | (none, _) => []
  else s.makings e p status

/-- What a turn finds out: nothing, if the token is cancelled before the visit. -/
def turnFindings (prior : List ItemStatus) (definition : String) : List Finding :=
  match s.look e with
  | (true, _) => []
  | (false, s₁) => s₁.findings e p (statusOrFresh definition prior)

end Scene

/-- **What the turns find out**, one after the other. -/
def Engine.findings {σ τ : Type} (e : Engine σ τ) (p : Pass) (prior : List ItemStatus) :
    List String → World σ τ → List Finding
  | [], _ => []
  | definition :: rest, w =>
    w.scene.turnFindings e p prior definition ++
      match e.turn p prior definition w with
      | (.ok _, w₁) => e.findings p prior rest w₁
      | (.error _, _) => []

/-! ## Spans and findings -/

section Ledger

variable {first spans : SpanRegistry} {ns : String} {names names' : List String}
  {past : List Finding} {f : Finding}

/-- **The spans are the findings so far, replayed** over a first registry.  All of them are about
known names. -/
structure Ledger (first : SpanRegistry) (ns : String) (names : List String) (past : List Finding)
    (spans : SpanRegistry) : Prop where
  /-- The spans. -/
  replayed : spans = past.foldl SpanRegistry.replay first
  /-- The findings are in order. -/
  order : past.Pairwise Finding.Before
  /-- What they start is recorded. -/
  recorded : ∀ f ∈ past, f.IsRecorded first.tracer.sampler
  /-- What they are about is known. -/
  known : ∀ f ∈ past, ∃ name ∈ names, f.key = .forTask ns name

theorem Ledger.grow (h : Ledger first ns names past spans) (sub : names ⊆ names') :
    Ledger first ns names' past spans :=
  ⟨h.replayed, h.order, h.recorded, fun f hf =>
    let ⟨name, mem, key⟩ := h.known f hf
    ⟨name, sub mem, key⟩⟩

/-- **One more finding.** -/
theorem Ledger.next (h : Ledger first ns names past spans) (before : ∀ g ∈ past, g.Before f)
    (recorded : f.IsRecorded first.tracer.sampler) {name : String} (mem : name ∈ names)
    (about : f.key = .forTask ns name) : Ledger first ns names (past ++ [f]) (spans.replay f) := by
  refine ⟨?_, ?_, ?_, ?_⟩
  · rw [List.foldl_append, ← h.replayed, List.foldl_cons, List.foldl_nil]
  · refine List.pairwise_append.2 ⟨h.order, List.pairwise_singleton _ _, fun g hg f' hf' => ?_⟩
    obtain rfl := List.mem_singleton.1 hf'
    exact before g hg
  · exact List.forall_mem_append.2 ⟨h.recorded, List.forall_mem_singleton.2 recorded⟩
  · exact List.forall_mem_append.2 ⟨h.known, List.forall_mem_singleton.2 ⟨name, mem, about⟩⟩

end Ledger

/-- **A finding allows its task to be watched**: a task that was read back was not finished, and one
that was missing still is. -/
def Finding.Allows (tasks : Keyed TaskKey Task) : Finding → Prop
  | created _ _ => True
  | read _ t => t.state.isTerminal = false
  | missing ns name => tasks.find? ⟨ns, name⟩ = none

namespace Finding

variable {tasks : Keyed TaskKey Task} {f : Finding}

theorem Allows.isFinish_eq (allows : f.Allows tasks) : f.isFinish = false := by
  cases f with
  | created | missing => rfl
  | read => exact allows

theorem Allows.ending?_eq (allows : f.Allows tasks) {ns name : String} {t : Task}
    (about : f.key = .forTask ns name) (found : tasks.find? ⟨ns, name⟩ = some t) :
    f.ending? = none := by
  cases f with
  | created => rfl
  | read => exact ending?_of_runs allows
  | missing ns' name' =>
    obtain rfl : ns' = ns := congrArg SpanKey.ns about
    obtain rfl : name' = name := congrArg SpanKey.name about
    rw [show tasks.find? ⟨ns', name'⟩ = none from allows] at found
    cases found

/-- What is missing before is missing afterwards. -/
theorem Allows.of_missing {tasks' : Keyed TaskKey Task} (allows : f.Allows tasks)
    (missing : ∀ ns name, f.key = .forTask ns name → tasks.find? ⟨ns, name⟩ = none →
      tasks'.find? ⟨ns, name⟩ = none) : f.Allows tasks' := by
  cases f with
  | created | read => exact allows
  | missing ns name => exact missing ns name rfl allows

end Finding

/-- **The desk is tracked** by findings, since a first desk: the tasks stand under their own keys
and come from the first desk or from a creation, the entries have tasks of their own, the spans
follow from the findings, and these allow every entry's task to be watched that is. -/
structure Tracked (first : Desk) (ns : String) (names : List String) (entries : List ItemStatus)
    (past : List Finding) (d : Desk) : Prop where
  /-- Every task stands under its own key. -/
  keyed : ∀ k t, d.tasks.find? k = some t → t.key = k
  /-- It was there in the beginning, or was created. -/
  origin : ∀ k t, d.tasks.find? k = some t → first.tasks.find? k = none →
    ∃ c t₀, .created c t₀ ∈ past ∧ t₀.key = k
  /-- No two entries have the same task. -/
  distinct : Distinct entries names
  /-- The spans are the findings, replayed. -/
  ledger : Ledger first.spans ns names past d.spans
  /-- What is watched may be. -/
  allows : ∀ x ∈ entries, x.IsWatched → ∀ f ∈ past, f.key = .forTask ns x.task →
    f.Allows d.tasks

namespace Tracked

variable {first : Desk} {ns : String} {names names' : List String}
  {entries done rest : List ItemStatus} {x b : ItemStatus} {past : List Finding} {d : Desk}
  {c : Context} {t : Task}

theorem grow (h : Tracked first ns names entries past d) (sub : names ⊆ names') :
    Tracked first ns names' entries past d :=
  ⟨h.keyed, h.origin, h.distinct.grow sub, h.ledger.grow sub, h.allows⟩

/-- A creation stays one after more findings. -/
theorem origin_next (h : Tracked first ns names entries past d) {f : Finding} :
    ∀ k t, d.tasks.find? k = some t → first.tasks.find? k = none →
      ∃ c t₀, .created c t₀ ∈ past ++ [f] ∧ t₀.key = k := by
  intro k t found new
  obtain ⟨c, t₀, mem, key⟩ := h.origin k t found new
  exact ⟨c, t₀, List.mem_append_left _ mem, key⟩

/-- Tasks may change and be lost, as long as none appears. -/
theorem of_tasks (h : Tracked first ns names entries past d) {tasks : Keyed TaskKey Task}
    (keyed : ∀ k t, tasks.find? k = some t → t.key = k)
    (missing : ∀ k, d.tasks.find? k = none → tasks.find? k = none) :
    Tracked first ns names entries past ⟨tasks, d.spans⟩ := by
  refine ⟨keyed, fun k t found new => ?_, h.distinct, h.ledger, fun x hx watched f hf about =>
    (h.allows x hx watched f hf about).of_missing fun _ _ _ => missing _⟩
  cases before : d.tasks.find? k with
  | none => rw [show tasks.find? k = none from missing k before] at found; cases found
  | some t' => exact h.origin k t' before new

/-- An entry may lose its task. -/
theorem clear (h : Tracked first ns names (done ++ x :: rest) past d) (bare : b.hasTask = false) :
    Tracked first ns names (done ++ b :: rest) past d := by
  refine ⟨h.keyed, h.origin, h.distinct.clear bare, h.ledger, fun y hy watched => ?_⟩
  obtain rfl | hy := mem_middle.1 hy
  · exact absurd watched (ItemStatus.not_isWatched_of_bare bare)
  · exact h.allows y (mem_middle.2 (.inr hy)) watched

/-- **The task of an entry is read back.** -/
theorem read (h : Tracked first ns names (done ++ x :: rest) past d)
    (records : first.spans.tracer.sampler.Records c) (watched : x.IsWatched)
    (found : d.tasks.find? ⟨ns, x.task⟩ = some t) (task : b.task = x.task)
    (state : b.isTerminal = t.state.isTerminal) :
    Tracked first ns names (done ++ b :: rest) (past ++ [.read c t])
      ⟨d.tasks, d.spans.replay (.read c t)⟩ := by
  have mem : x ∈ done ++ x :: rest := by simp
  have key : t.spanKey = .forTask ns x.task := Task.spanKey_of_key (h.keyed _ t found)
  refine ⟨h.keyed, h.origin_next, h.distinct.replace task, h.ledger.next (fun g hg same => ?_)
    records (h.distinct.known x mem watched.2) key, fun y hy live => ?_⟩
  · have about := Eq.trans same key
    exact (h.allows x mem watched g hg about).ending?_eq about found
  obtain rfl | hy := mem_middle.1 hy
  · refine List.forall_mem_append.2
      ⟨fun f hf about => ?_, List.forall_mem_singleton.2 fun _ => state.symm.trans live.1⟩
    exact h.allows x mem watched f hf (by rw [about, task])
  · refine List.forall_mem_append.2
      ⟨h.allows y (mem_middle.2 (.inr hy)) live, List.forall_mem_singleton.2 fun about => ?_⟩
    have same : x.task = y.task := SpanKey.forTask_inj.1 (key.symm.trans about)
    exact absurd same ((Distinct.pairwise_middle.1 h.distinct.apart).1 y hy watched.2)

/-- **The task of an entry is missing.** -/
theorem missing (h : Tracked first ns names entries past d) (mem : x ∈ entries)
    (watched : x.IsWatched) (missing : d.tasks.find? ⟨ns, x.task⟩ = none) :
    Tracked first ns names entries (past ++ [.missing ns x.task]) (d.vanish ns x.task) := by
  refine ⟨h.keyed, h.origin_next, h.distinct, ?_, fun y hy live => ?_⟩
  · rw [Desk.vanish, ← SpanRegistry.replay_missing]
    exact h.ledger.next (fun g hg same => (h.allows x mem watched g hg same).isFinish_eq) trivial
      (h.distinct.known x mem watched.2) rfl
  · exact List.forall_mem_append.2
      ⟨h.allows y hy live, List.forall_mem_singleton.2 fun _ => missing⟩

/-- **An entry is given a new task.** -/
theorem created (h : Tracked first ns names (done ++ x :: rest) past d)
    (records : first.spans.tracer.sampler.Records c) (home : t.ns = ns) (new : t.name ∉ names)
    (task : b.task = t.name) :
    Tracked first ns (names ++ [t.name]) (done ++ b :: rest) (past ++ [.created c t])
      (d.add c t) := by
  have key : t.spanKey = .forTask ns t.name := by rw [Task.spanKey, home]
  -- What the findings are about is known, and the name is not.
  have others : ∀ f ∈ past, f.key ≠ .forTask ns t.name := fun f hf about => by
    obtain ⟨name, mem, same⟩ := h.ledger.known f hf
    rw [SpanKey.forTask_inj.1 (about.symm.trans same)] at new
    exact new mem
  have distinct := h.distinct.assign (b := b) (by rwa [task])
  rw [task] at distinct
  refine ⟨fun k t' found => ?_, fun k t' found new => ?_, distinct, ?_, fun y hy live => ?_⟩
  · rw [Desk.tasks_add, Keyed.find?_insert] at found
    split at found
    · next same => rw [same, Option.some.inj found]
    · exact h.keyed k t' found
  · rw [Desk.tasks_add, Keyed.find?_insert] at found
    split at found
    · next same => exact ⟨c, t, by simp, same.symm⟩
    · exact h.origin_next k t' found new
  · exact (h.ledger.grow (List.subset_append_left _ _)).next
      (fun g hg same => others g hg (Eq.trans same key)) records (by simp) key
  refine List.forall_mem_append.2
    ⟨fun f hf about => ?_, List.forall_mem_singleton.2 fun _ => trivial⟩
  obtain rfl | hy := mem_middle.1 hy
  · rw [task] at about
    exact absurd about (others f hf)
  refine (h.allows y (mem_middle.2 (.inr hy)) live f hf
    about).of_missing fun ns' name about' missing => ?_
  rw [Desk.tasks_add, Keyed.find?_insert, if_neg, missing]
  intro same
  refine others f hf (about'.trans ?_)
  rw [← home]
  exact congrArg (fun k : TaskKey => SpanKey.forTask k.ns k.name) same

end Tracked

/-! ## One visit -/

namespace Engine

variable {ε : Type} {c : Chance} {emit : PhaseEvent → Act ε (Except EventError Unit)} {p : Pass}
  {prior done rest : List ItemStatus} {old : List String} {s s' : Scene Memory (Watch ε)}
  {first : Desk} {past : List Finding}

/-- **A creation keeps the desk tracked**, if no name repeats. -/
theorem Creation.tracked {status : ItemStatus} {out : Outcome}
    (creation : Creation (Watch.engine c emit) p status s (.ok out) s')
    (records : first.spans.tracer.sampler.Records p.context)
    (fresh : (old ++ createdNames s'.calls).Nodup)
    (h : Tracked first p.item.ns (old ++ createdNames s.calls) (done ++ status :: rest) past
      s.desk) :
    Tracked first p.item.ns (old ++ createdNames s'.calls) (done ++ out.status :: rest)
      (past ++ s.makings (Watch.engine c emit) p status) s'.desk := by
  cases creation with
  | unresolved resolved =>
    rw [Scene.makings, resolved, Scene.desk_resolve resolved, Scene.createdNames_resolve resolved,
      List.append_nil]
    exact h
  | @refused s₁ s₂ s₃ d draw err resolved drawn put =>
    rw [Scene.makings, resolved]
    simp only [drawn, put, List.append_nil]
    rw [Scene.desk_refused resolved drawn put, Scene.createdNames_refused,
      Scene.createdNames_stamped resolved drawn put]
    exact h.grow (by simp)
  | @created s₁ s₂ s₃ d draw t resolved drawn put =>
    obtain ⟨rfl, -⟩ := Scene.created_of_put resolved drawn put
    have names := Scene.createdNames_stamped resolved drawn put
    rw [Scene.createdNames_welcome, names, ← List.append_assoc] at fresh ⊢
    rw [Scene.makings, resolved]
    simp only [drawn, put]
    rw [Scene.desk_created resolved drawn put]
    exact h.created records rfl
      (fun mem => (List.nodup_append.1 fresh).2.2 _ mem _ (List.mem_singleton_self _) rfl) rfl

theorem Creation.makings_of_error {status : ItemStatus} {i : Interruption}
    (creation : Creation (Watch.engine c emit) p status s (.error i) s') :
    s.makings (Watch.engine c emit) p status = [] := by
  cases creation with
  | unanswered resolved => rw [Scene.makings, resolved]
  | dropped resolved drawn put =>
    rw [Scene.makings, resolved]
    simp only [drawn, put]

/-- **A visit keeps the desk tracked**, if no name repeats and nobody lies about a lost task. -/
theorem Course.tracked (truthful : c.IsTruthful) {status : ItemStatus} {out : Outcome}
    (course : Course (Watch.engine c emit) p status s (.ok out) s')
    (records : first.spans.tracer.sampler.Records p.context)
    (fresh : (old ++ createdNames s'.calls).Nodup)
    (h : Tracked first p.item.ns (old ++ createdNames s.calls) (done ++ status :: rest) past
      s.desk) :
    Tracked first p.item.ns (old ++ createdNames s'.calls) (done ++ out.status :: rest)
      (past ++ s.findings (Watch.engine c emit) p status) s'.desk := by
  cases course with
  | finished terminal =>
    rw [Scene.findings, if_pos terminal, List.append_nil]
    exact h
  | @read s₁ t live task fetched =>
    have found : s.desk.tasks.find? ⟨p.item.ns, status.task⟩ = some t :=
      Scene.found_of_fetch fetched
    have desk : (s₁.refresh (Watch.engine c emit) p t status).2.desk
        = ⟨s.desk.tasks, s.desk.spans.replay (.read p.context t)⟩ := by
      rw [Scene.desk_refresh, ItemStatus.completes_of_live live, Scene.desk_fetch fetched,
        SpanRegistry.replay_read]
      split <;> rfl
    have next := h.read (b := (s₁.refresh (Watch.engine c emit) p t status).1.status) records
      ⟨live, task⟩ found (Scene.task_refresh t status)
      (congrArg TaskState.isTerminal (Scene.state_refresh t status))
    rw [desk, Scene.createdNames_refresh, Scene.createdNames_fetch fetched]
    simpa [Scene.findings, live, task, fetched] using next
  | @lost s₁ s₂ err _ live task fetched gone creation =>
    have lost := h.missing (x := status) (by simp) ⟨live, task⟩
      (Scene.missing_of_fetch truthful fetched gone)
    rw [← Scene.desk_fetch fetched, ← Scene.desk_lose (c := c),
      ← Scene.createdNames_fetch fetched, ← Scene.createdNames_lose (e := Watch.engine c emit)]
      at lost
    have next := creation.tracked records fresh (lost.clear rfl)
    simpa [Scene.findings, live, task, fetched, gone] using next
  | bare live bare creation =>
    simpa [Scene.findings, live, bare] using creation.tracked records fresh h

/-- **A visit that stops the pass** keeps the desk tracked, with the entries from before. -/
theorem Course.tracked_of_error (truthful : c.IsTruthful) {status : ItemStatus} {i : Interruption}
    (course : Course (Watch.engine c emit) p status s (.error i) s')
    (h : Tracked first p.item.ns (old ++ createdNames s.calls) (done ++ status :: rest) past
      s.desk) :
    Tracked first p.item.ns (old ++ createdNames s'.calls) (done ++ status :: rest)
      (past ++ s.findings (Watch.engine c emit) p status) s'.desk := by
  have grown : old ++ createdNames s.calls ⊆ old ++ createdNames s'.calls :=
    List.append_subset.2 ⟨List.subset_append_left _ _, List.Subset.trans
      (createdNames_subset course.calls_grow) (List.subset_append_right _ _)⟩
  cases course with
  | unanswered live task fetched =>
    rw [Scene.desk_fetch fetched]
    simpa [Scene.findings, live, task, fetched] using h.grow grown
  | unread live task fetched failure =>
    rw [Scene.desk_fetch fetched]
    simpa [Scene.findings, live, task, fetched, failure] using h.grow grown
  | lost live task fetched gone creation =>
    -- The entry keeps the lost task: the next pass may find it missing again, but not read it back.
    have lost := h.missing (x := status) (by simp) ⟨live, task⟩
      (Scene.missing_of_fetch truthful fetched gone)
    rw [creation.desk_of_error, Scene.desk_lose, Scene.desk_fetch fetched]
    simpa [Scene.findings, live, task, fetched, gone, creation.makings_of_error]
      using lost.grow grown
  | bare live bare creation =>
    rw [creation.desk_of_error]
    simpa [Scene.findings, live, bare, creation.makings_of_error] using h.grow grown

/-! ## One turn after the other -/

theorem Turn.tracked (truthful : c.IsTruthful) {definition : String} {out : Outcome}
    (turn : Turn (Watch.engine c emit) p prior definition s (.ok out) s')
    (records : first.spans.tracer.sampler.Records p.context)
    (fresh : (old ++ createdNames s'.calls).Nodup)
    (h : Tracked first p.item.ns (old ++ createdNames s.calls)
      (done ++ statusOrFresh definition prior :: rest) past s.desk) :
    Tracked first p.item.ns (old ++ createdNames s'.calls) (done ++ out.status :: rest)
      (past ++ s.turnFindings (Watch.engine c emit) p prior definition) s'.desk := by
  cases turn with
  | done look course =>
    rw [Scene.turnFindings, look]
    obtain rfl := congrArg Prod.snd look
    rw [Scene.createdNames_announceChange] at fresh ⊢
    rw [Scene.desk_announceChange]
    exact course.tracked truthful records fresh h

theorem Turn.tracked_of_error (truthful : c.IsTruthful) {definition : String} {i : Interruption}
    (turn : Turn (Watch.engine c emit) p prior definition s (.error i) s')
    (h : Tracked first p.item.ns (old ++ createdNames s.calls)
      (done ++ statusOrFresh definition prior :: rest) past s.desk) :
    Tracked first p.item.ns (old ++ createdNames s'.calls)
      (done ++ statusOrFresh definition prior :: rest)
      (past ++ s.turnFindings (Watch.engine c emit) p prior definition) s'.desk := by
  cases turn with
  | stopped look =>
    rw [Scene.turnFindings, look, List.append_nil]
    obtain rfl := congrArg Prod.snd look
    exact h
  | interrupted look course =>
    rw [Scene.turnFindings, look]
    obtain rfl := congrArg Prod.snd look
    exact course.tracked_of_error truthful h

/-- **A pass keeps the desk tracked**, however it ends, with the entries that it hands over. -/
theorem tracked_visitAll (truthful : c.IsTruthful)
    (records : first.spans.tracer.sampler.Records p.context) (definitions : List String)
    (r : Reconciliation) (w : World Memory (Watch ε))
    (fresh : (old ++ createdNames ((Watch.engine c emit).visitAll p prior r definitions
      w).2.scene.calls).Nodup)
    (h : Tracked first p.item.ns (old ++ createdNames w.scene.calls)
      (r.statuses ++ definitions.map (statusOrFresh · prior)) past w.scene.desk) :
    let after := (Watch.engine c emit).visitAll p prior r definitions w
    Tracked first p.item.ns (old ++ createdNames after.2.scene.calls) (keptStatuses after.1)
      (past ++ (Watch.engine c emit).findings p prior definitions w) after.2.scene.desk := by
  intro after
  -- The entries that are done are those of the result so far, the others are untouched.
  induction definitions generalizing r w past with
  | nil => simpa [after, visitAll, Run.map_apply, findings, keptStatuses] using h
  | cons definition rest ih =>
    have turn := (Watch.engine c emit).turn_turn p prior definition w
    have later := (Watch.engine c emit).visitAll_cons p prior r definition rest w
    rw [findings]
    simp only [after] at fresh ⊢
    rw [later] at fresh ⊢
    generalize (Watch.engine c emit).turn p prior definition w = t at turn fresh ⊢
    obtain ⟨result, w₁⟩ := t
    cases result with
    | ok o =>
      have grow := ((Watch.engine c emit).visitAll_ending p prior rest (r.record o) w₁).calls_grow
      have next := turn.tracked truthful records (nodup_names_of_earlier grow fresh) h
      rw [← List.append_assoc]
      exact ih (r.record o) w₁ fresh (by simpa using next)
    | error i =>
      have next := turn.tracked_of_error truthful h
      simpa [Run.map_apply, interrupted_fst, scene_interrupted, keptStatuses] using next

end Engine

end DeployChecks
