import DeployChecks.Proofs.Host.Watch

/-!
# Proofs/Host/Work — what visits do to tasks and spans

As long as nothing is refused, what a visit leaves of the tasks and the spans follows from its
entry, the tasks, the definitions and the spans before it; chance has only the names of new tasks
and the times.  Main definitions: `Desk`, the part of a scene that is meant; `Work` for one visit
and `Works` for visits one after the other.  Main statements: `Turns.works` and, for a turn that
stops the pass, `Turn.desk_of_error`.
-/

namespace DeployChecks

open Trace (Context SpanEvent SpanStatus Tracer)

/-! ## The spans of finished and of lost tasks -/

namespace SpanRegistry

/-- Close the span of a context. -/
def close (r : SpanRegistry) (context : Context) (events : List SpanEvent) (status : SpanStatus) :
    SpanRegistry :=
  { r with
    tracer :=
      ((events.foldl (fun t event => t.addEvent context event) r.tracer).setStatus context
        status).finish context }

/-- **The spans after a task was lost.** -/
def vanish (r : SpanRegistry) (ns task : String) : SpanRegistry :=
  (match r.lookup (.forTask ns task) with
    | some context => r.close context [Pass.vanishing task] (.error "Vanished")
    | none => r).unbind (.forTask ns task)

/-- **The spans after a task has finished.** -/
def settle (r : SpanRegistry) (parent : Context) (t : Task) : SpanRegistry :=
  let b := r.bind t.spanKey parent t.spanAttributes
  (b.2.close b.1 (Pass.closing t).1 (Pass.closing t).2).unbind t.spanKey

variable {r : SpanRegistry} {k : SpanKey}

@[simp] theorem bound_close (context : Context) (events : List SpanEvent) (status : SpanStatus) :
    (r.close context events status).bound = r.bound := rfl

theorem isBound_vanish (ns task : String) :
    (r.vanish ns task).isBound k = true ↔ k ≠ .forTask ns task ∧ r.isBound k = true := by
  rw [vanish, isBound_unbind]
  split <;> rfl

theorem isBound_settle (parent : Context) (t : Task) :
    (r.settle parent t).isBound k = true ↔ k ≠ t.spanKey ∧ r.isBound k = true := by
  rw [settle, isBound_unbind]
  exact and_congr_right fun other =>
    (isBound_bind r t.spanKey k parent t.spanAttributes).trans (or_iff_right other)

/-- A span that is bound is not bound again. -/
theorem bind_of_isBound (bound : r.isBound k = true) (parent : Context)
    (attributes : List Trace.Attribute) : (r.bind k parent attributes).2 = r := by
  rw [isBound_eq, Option.isSome_iff_exists] at bound
  obtain ⟨c, found⟩ := bound
  rw [bind, found]

/-- A span that is not bound is not unbound. -/
theorem unbind_of_not_isBound (unbound : ¬ r.isBound k = true) : r.unbind k = r := by
  rw [isBound_eq, Option.not_isSome_iff_eq_none] at unbound
  rw [unbind, unbound]

/-- **A task is lost once**: another time changes nothing. -/
theorem vanish_vanish (ns task : String) :
    (r.vanish ns task).vanish ns task = r.vanish ns task := by
  have unbound : ¬ (r.vanish ns task).isBound (.forTask ns task) = true :=
    fun bound => (isBound_vanish ns task).1 bound |>.1 rfl
  have missing := unbound
  rw [isBound_eq, Option.not_isSome_iff_eq_none] at missing
  rw [vanish, missing, unbind_of_not_isBound unbound]

end SpanRegistry

/-! ## Tasks and spans -/

/-- **Tasks and spans**, as they lie on the desk. -/
structure Desk where
  /-- The tasks. -/
  tasks : Keyed TaskKey Task
  /-- The spans. -/
  spans : SpanRegistry

namespace Desk

/-- The span of a task is bound. -/
def bind (d : Desk) (parent : Context) (t : Task) : Desk :=
  ⟨d.tasks, (d.spans.bind t.spanKey parent t.spanAttributes).2⟩

/-- The span of a finished task is closed and given up. -/
def settle (d : Desk) (parent : Context) (t : Task) : Desk := ⟨d.tasks, d.spans.settle parent t⟩

/-- The span of a lost task is closed and given up. -/
def vanish (d : Desk) (ns task : String) : Desk := ⟨d.tasks, d.spans.vanish ns task⟩

/-- **A new task** is there, and its span is bound. -/
def add (d : Desk) (parent : Context) (t : Task) : Desk :=
  bind ⟨d.tasks.insert t.key t, d.spans⟩ parent t

/-- The span of a key is bound. -/
def IsBound (d : Desk) (k : SpanKey) : Prop := d.spans.isBound k = true

variable (d : Desk) (k : SpanKey) (parent : Context) (t : Task)

@[simp] theorem tasks_add : (d.add parent t).tasks = d.tasks.insert t.key t := rfl

theorem isBound_bind : (d.bind parent t).IsBound k ↔ k = t.spanKey ∨ d.IsBound k :=
  d.spans.isBound_bind t.spanKey k parent t.spanAttributes

theorem isBound_settle : (d.settle parent t).IsBound k ↔ k ≠ t.spanKey ∧ d.IsBound k :=
  SpanRegistry.isBound_settle parent t

theorem isBound_vanish (ns task : String) :
    (d.vanish ns task).IsBound k ↔ k ≠ .forTask ns task ∧ d.IsBound k :=
  SpanRegistry.isBound_vanish ns task

theorem isBound_add : (d.add parent t).IsBound k ↔ k = t.spanKey ∨ d.IsBound k :=
  isBound_bind _ k parent t

variable {d} {t}

/-- A task whose span is bound is not bound again. -/
theorem bind_of_isBound (bound : d.IsBound t.spanKey) : d.bind parent t = d :=
  congrArg (Desk.mk d.tasks) (SpanRegistry.bind_of_isBound bound parent t.spanAttributes)

/-- A task is lost once. -/
theorem vanish_vanish (ns task : String) : (d.vanish ns task).vanish ns task = d.vanish ns task :=
  congrArg (Desk.mk d.tasks) (SpanRegistry.vanish_vanish ns task)

end Desk

namespace Scene

variable {ε : Type} {s s₁ : Scene Memory (Watch ε)} {c : Chance} {p : Pass}
  {emit : PhaseEvent → Act ε (Except EventError Unit)}

/-- The tasks and the spans of a scene. -/
def desk (s : Scene Memory (Watch ε)) : Desk := ⟨s.backend.store.tasks, s.observer.spans⟩

theorem desk_of_same (same : Memory.Same s.backend s₁.backend)
    (observer : s₁.observer = s.observer) : s₁.desk = s.desk := by
  rw [desk, desk, same.tasks, observer]

theorem desk_fetch {status : ItemStatus} {answer : Option (Except StoreError Task)}
    (fetched : s.fetch (Watch.engine c emit) p status = (answer, s₁)) : s₁.desk = s.desk :=
  desk_of_same (fetch_cases fetched).1 (s.observer_ask _ fetched)

theorem desk_resolve {status : ItemStatus} {answer : Option (Except ResolveError TaskDefinition)}
    (resolved : s.resolve (Watch.engine c emit) p status = (answer, s₁)) : s₁.desk = s.desk :=
  desk_of_same (resolve_cases resolved).1 (s.observer_ask _ resolved)

variable (s)

theorem desk_announce (phase : Phase) (severity : Severity) (reason message : String) :
    (s.announce (Watch.engine c emit) p phase severity reason message).desk = s.desk := rfl

theorem desk_announceChange (definition : String) (previous : Option TaskState)
    (current : TaskState) :
    (s.announceChange (Watch.engine c emit) p definition previous current).desk = s.desk := by
  unfold announceChange
  split
  · rfl
  · exact s.desk_announce _ _ _ _

theorem spans_close (key : SpanKey) (context : Context) (events : List SpanEvent)
    (status : SpanStatus) :
    (s.close (Watch.engine c emit) key context events status).observer.spans
      = s.observer.spans.close context events status := by
  have added : ∀ (events : List SpanEvent) (v : Watch ε),
      (events.foldl (fun v event => ((Watch.observer emit).addEvent context event v).2) v).spans
        = { v.spans with
            tracer := events.foldl (fun t event => t.addEvent context event) v.spans.tracer } := by
    intro events
    induction events with
    | nil => exact fun _ => rfl
    | cons event rest ih => exact fun v => ih _
  have ended : ∀ v : Watch ε,
      ((Watch.observer emit).finish context
        ((Watch.observer emit).setStatus context status v).2).2.spans
        = { v.spans with tracer := (v.spans.tracer.setStatus context status).finish context } :=
    fun _ => rfl
  exact (ended _).trans (congrArg (fun r : SpanRegistry =>
    { r with tracer := (r.tracer.setStatus context status).finish context })
    (added events s.observer))

theorem spans_unbind (key : SpanKey) :
    (s.unbind (Watch.engine c emit) key).observer.spans = s.observer.spans.unbind key := rfl

theorem spans_settle (t : Task) :
    (s.settle (Watch.engine c emit) p t).observer.spans
      = s.observer.spans.settle p.context t := by
  rw [settle, spans_unbind, spans_close]
  rfl

theorem spans_lose (ns task : String) :
    (s.lose (Watch.engine c emit) ns task).observer.spans = s.observer.spans.vanish ns task := by
  have looked : (s.watch (.lookup (.forTask ns task))
      ((Watch.engine c emit).observer.lookup (.forTask ns task))).1
        = s.observer.spans.lookup (.forTask ns task) := rfl
  unfold lose SpanRegistry.vanish
  dsimp only
  rw [looked, spans_unbind]
  cases s.observer.spans.lookup (.forTask ns task) with
  | none => rfl
  | some context =>
    dsimp only
    rw [spans_close]
    rfl

/-- **The desk after a task was lost.** -/
theorem desk_lose (ns task : String) :
    (s.lose (Watch.engine c emit) ns task).desk = s.desk.vanish ns task := by
  rw [desk, backend_lose, spans_lose]
  rfl

/-- **The desk after a task was read back.** -/
theorem desk_refresh (t : Task) (status : ItemStatus) :
    (s.refresh (Watch.engine c emit) p t status).2.desk =
      if t.state.completes (some status.state) then s.desk.settle p.context t
      else s.desk.bind p.context t := by
  unfold refresh
  split
  · exact congrArg (Desk.mk _) (s.spans_settle t)
  · rfl

/-- The desk after a task was welcomed. -/
theorem desk_welcome (t : Task) (status : ItemStatus) :
    (s.welcome (Watch.engine c emit) p t status).2.desk = s.desk.bind p.context t := rfl

variable {s} {s₂ s₃ : Scene Memory (Watch ε)} {status x : ItemStatus} {t : TaskDefinition}
  {draw : Nat}

/-- **The desk after a task was created.** -/
theorem desk_created (resolved : s.resolve (Watch.engine c emit) p status = (some (.ok t), s₁))
    (drawn : s₁.sample (Watch.engine c emit).backend.draw = (draw, s₂))
    (put : s₂.put (Watch.engine c emit) (p.stamp t draw) = (some (.ok (p.stamp t draw)), s₃)) :
    (s₃.welcome (Watch.engine c emit) p (p.stamp t draw) x).2.desk
      = s.desk.add p.context (p.stamp t draw) := by
  obtain ⟨-, -, tasks, -⟩ := created_of_put resolved drawn put
  rw [desk_welcome, desk, tasks, (quiet_stamped resolved drawn put).1]
  rfl

/-- A refusal leaves the desk as it is. -/
theorem desk_refused {err : StoreError}
    (resolved : s.resolve (Watch.engine c emit) p status = (some (.ok t), s₁))
    (drawn : s₁.sample (Watch.engine c emit).backend.draw = (draw, s₂))
    (put : s₂.put (Watch.engine c emit) (p.stamp t draw) = (some (.error err), s₃)) :
    (s₃.refused (Watch.engine c emit) p x).desk = s.desk := by
  rw [refused, desk_announce]
  exact desk_of_same (same_of_refused resolved drawn put) (quiet_stamped resolved drawn put).1

end Scene

/-! ## Work -/

/-- **What creating a task does**, to the entry and on the desk: nothing, or a task of a new name is
there and its span is bound. -/
inductive Making (p : Pass) (defs : DefinitionRegistry) (x : ItemStatus) (d : Desk) :
    ItemStatus → List String → Desk → Prop
  /-- There is no definition to go by. -/
  | unresolved {err : ResolveError} (resolved : defs.resolve x.definition p.item.ns = .error err) :
    Making p defs x d x [] d
  /-- The task is made. -/
  | made {t : TaskDefinition} (draw : Nat) (now : Timestamp)
      (resolved : defs.resolve x.definition p.item.ns = .ok t) :
    Making p defs x d ({ x with task := (p.stamp t draw).name }.started now)
      [(p.stamp t draw).name] (d.add p.context (p.stamp t draw))

/-- **What a visit does**, to the entry and on the desk, with the names of new tasks. -/
inductive Work (p : Pass) (defs : DefinitionRegistry) (x : ItemStatus) (d : Desk) :
    ItemStatus → List String → Desk → Prop
  /-- The entry is finished. -/
  | finished (terminal : x.isTerminal = true) : Work p defs x d x [] d
  /-- The task is read back, and not finished. -/
  | running {t : Task} (watched : x.IsWatched)
      (found : d.tasks.find? ⟨p.item.ns, x.task⟩ = some t) (live : t.state.isTerminal = false) :
    Work p defs x d { x with state := t.state } [] (d.bind p.context t)
  /-- The task is read back, and finished. -/
  | completed {t : Task} (now : Timestamp) (watched : x.IsWatched)
      (found : d.tasks.find? ⟨p.item.ns, x.task⟩ = some t) (ended : t.state.isTerminal = true) :
    Work p defs x d ({ x with state := t.state }.ended now) [] (d.settle p.context t)
  /-- The task is lost, and replaced. -/
  | lost {b : ItemStatus} {names : List String} {d' : Desk} (watched : x.IsWatched)
      (missing : d.tasks.find? ⟨p.item.ns, x.task⟩ = none)
      (making : Making p defs x.withoutTask (d.vanish p.item.ns x.task) b names d') :
    Work p defs x d b names d'
  /-- There is no task yet. -/
  | bare {b : ItemStatus} {names : List String} {d' : Desk} (live : x.isTerminal = false)
      (bare : x.hasTask = false) (making : Making p defs x d b names d') :
    Work p defs x d b names d'

/-- **Visits one after the other.** -/
inductive Works (p : Pass) (defs : DefinitionRegistry) :
    List ItemStatus → Desk → List ItemStatus → List String → Desk → Prop
  /-- No entry. -/
  | nil {d : Desk} : Works p defs [] d [] [] d
  /-- One more entry in front. -/
  | cons {x b : ItemStatus} {xs bs : List ItemStatus} {names more : List String} {d d₁ d₂ : Desk}
      (work : Work p defs x d b names d₁) (works : Works p defs xs d₁ bs more d₂) :
    Works p defs (x :: xs) d (b :: bs) (names ++ more) d₂

/-! ## The names that are known -/

/-- **The names on the desk are known**, and the tasks stand under their own keys. -/
structure Desk.Named (known : List String) (d : Desk) : Prop where
  /-- The tasks. -/
  tasks : ∀ k t, d.tasks.find? k = some t → t.key = k ∧ k.name ∈ known
  /-- The bound keys. -/
  keys : ∀ k, d.spans.isBound k = true → k.name ∈ known

namespace Desk.Named

variable {known known' : List String} {d : Desk}

theorem grow (h : d.Named known) (sub : known ⊆ known') : d.Named known' :=
  ⟨fun k t found => ⟨(h.tasks k t found).1, sub (h.tasks k t found).2⟩,
    fun k bound => sub (h.keys k bound)⟩

/-- The key of the span of a task that is found. -/
theorem spanKey (h : d.Named known) {ns name : String} {t : Task}
    (found : d.tasks.find? ⟨ns, name⟩ = some t) : t.spanKey = .forTask ns name :=
  Task.spanKey_of_key (h.tasks _ t found).1

theorem bind (h : d.Named known) {t : Task} (name : t.name ∈ known) (parent : Context) :
    (d.bind parent t).Named known := by
  refine ⟨h.tasks, fun k bound => ?_⟩
  obtain rfl | bound := (d.isBound_bind k parent t).1 bound
  · exact name
  · exact h.keys k bound

theorem settle (h : d.Named known) (parent : Context) (t : Task) :
    (d.settle parent t).Named known :=
  ⟨h.tasks, fun k bound => h.keys k ((d.isBound_settle k parent t).1 bound).2⟩

theorem vanish (h : d.Named known) (ns task : String) : (d.vanish ns task).Named known :=
  ⟨h.tasks, fun k bound => h.keys k ((d.isBound_vanish k ns task).1 bound).2⟩

theorem add (h : d.Named known) {t : Task} (name : t.name ∈ known) (parent : Context) :
    (d.add parent t).Named known := by
  refine bind (d := ⟨d.tasks.insert t.key t, d.spans⟩) ⟨fun k t' found => ?_, h.keys⟩ name parent
  dsimp only at found
  rw [Keyed.find?_insert] at found
  split at found
  · next e =>
    obtain rfl := Option.some.inj found
    subst e
    exact ⟨rfl, name⟩
  · exact h.tasks k t' found

end Desk.Named

theorem Making.named {p : Pass} {defs : DefinitionRegistry} {x b : ItemStatus} {d d' : Desk}
    {known names : List String} (making : Making p defs x d b names d') (h : d.Named known) :
    d'.Named (known ++ names) := by
  have grown := h.grow (List.subset_append_left known names)
  cases making with
  | unresolved => exact grown
  | made draw now => exact grown.add (by simp) p.context

/-- **The names stay known**, with the new ones. -/
theorem Work.named {p : Pass} {defs : DefinitionRegistry} {x b : ItemStatus} {d d' : Desk}
    {known names : List String} (work : Work p defs x d b names d') (h : d.Named known) :
    d'.Named (known ++ names) := by
  cases work with
  | finished => rwa [List.append_nil]
  | running watched found =>
    rw [List.append_nil]
    obtain ⟨key, name⟩ := h.tasks _ _ found
    exact h.bind (by rwa [← key] at name) p.context
  | completed now watched found =>
    rw [List.append_nil]
    exact h.settle _ _
  | lost _ _ making => exact making.named (h.vanish _ _)
  | bare _ _ making => exact making.named h

theorem Works.named {p : Pass} {defs : DefinitionRegistry} {xs bs : List ItemStatus} {d d' : Desk}
    {known names : List String} (works : Works p defs xs d bs names d') (h : d.Named known) :
    d'.Named (known ++ names) := by
  induction works generalizing known with
  | nil => rwa [List.append_nil]
  | cons work _ ih =>
    rw [← List.append_assoc]
    exact ih (work.named h)

/-! ## Visits do the work -/

namespace Engine

variable {ε : Type} {c : Chance} {emit : PhaseEvent → Act ε (Except EventError Unit)} {p : Pass}
  {prior : List ItemStatus} {old : List String} {s s' : Scene Memory (Watch ε)}

/-- **A creation makes the task**, where nothing is refused and names do not repeat. -/
theorem Creation.making (orderly : c.IsOrderly) {status : ItemStatus} {out : Outcome}
    (creation : Creation (Watch.engine c emit) p status s (.ok out) s')
    (named : s.desk.Named (old ++ createdNames s.calls))
    (fresh : (old ++ createdNames s'.calls).Nodup) :
    ∃ names, createdNames s'.calls = createdNames s.calls ++ names ∧
      s'.backend.registry = s.backend.registry ∧
      Making p s.backend.registry status s.desk out.status names s'.desk := by
  cases creation with
  | unresolved resolved =>
    obtain ⟨same, answer | ⟨n, err, failed, -⟩ | answer⟩ := Scene.resolve_cases resolved
    · cases answer
    · exact absurd failed (orderly.resolve n err)
    · refine ⟨[], ?_, same.registry, ?_⟩
      · rw [Scene.createdNames_resolve resolved, List.append_nil]
      · rw [Scene.desk_resolve resolved]
        exact .unresolved (Option.some.inj answer).symm
  | @refused s₁ s₂ s₃ d draw err resolved drawn put =>
    have desk : s₁.desk = s.desk := Scene.desk_resolve resolved
    have names : createdNames s₃.calls = createdNames s.calls ++ [(p.stamp d draw).name] :=
      Scene.createdNames_stamped resolved drawn put
    obtain rfl := congrArg Prod.snd drawn
    obtain ⟨answer, -⟩ | ⟨_, -, -, ⟨n, failed⟩ | taken⟩ | ⟨answer, -⟩ := Scene.put_cases put
    · cases answer
    · exact absurd failed (orderly.create n _)
    · obtain ⟨t, found⟩ := Option.isSome_iff_exists.1 taken
      rw [← desk] at named
      have known := (named.tasks _ t found).2
      rw [Scene.createdNames_refused, names, ← List.append_assoc] at fresh
      exact absurd rfl ((List.nodup_append.1 fresh).2.2 _ known _ (List.mem_singleton_self _))
    · cases answer
  | @created s₁ s₂ s₃ d draw t resolved drawn put =>
    obtain ⟨rfl, -, -, registry⟩ := Scene.created_of_put resolved drawn put
    refine ⟨[(p.stamp d draw).name], ?_, registry, ?_⟩
    · rw [Scene.createdNames_welcome, Scene.createdNames_stamped resolved drawn put]
    · rw [Scene.desk_created resolved drawn put]
      exact .made draw _ (Scene.resolved_of_resolve resolved)

/-- **A visit does its work**, where nothing is refused and names do not repeat. -/
theorem Course.work (orderly : c.IsOrderly) {status : ItemStatus} {out : Outcome}
    (course : Course (Watch.engine c emit) p status s (.ok out) s')
    (named : s.desk.Named (old ++ createdNames s.calls))
    (fresh : (old ++ createdNames s'.calls).Nodup) :
    ∃ names, createdNames s'.calls = createdNames s.calls ++ names ∧
      s'.backend.registry = s.backend.registry ∧
      Work p s.backend.registry status s.desk out.status names s'.desk := by
  cases course with
  | finished terminal => exact ⟨[], (List.append_nil _).symm, rfl, .finished terminal⟩
  | @read s₁ t live task fetched =>
    have desk : s₁.desk = s.desk := Scene.desk_fetch fetched
    have found : s.desk.tasks.find? ⟨p.item.ns, status.task⟩ = some t :=
      Scene.found_of_fetch fetched
    refine ⟨[], ?_, ?_, ?_⟩
    · rw [Scene.createdNames_refresh, Scene.createdNames_fetch fetched, List.append_nil]
    · exact ((Scene.fetch_cases fetched).1.trans (Scene.same_refresh _ _)).registry
    rw [Scene.desk_refresh, ItemStatus.completes_of_live live, desk]
    unfold Scene.refresh
    rw [ItemStatus.completes_of_live live]
    split
    · next ended => exact .completed _ ⟨live, task⟩ found ended
    · next running => exact .running ⟨live, task⟩ found (by simpa using running)
  | @lost s₁ s₂ err _ live task fetched gone creation =>
    have desk : s₁.desk = s.desk := Scene.desk_fetch fetched
    have missing : s.desk.tasks.find? ⟨p.item.ns, status.task⟩ = none :=
      Scene.missing_of_fetch orderly.get fetched gone
    have same := (Scene.fetch_cases fetched).1
    have calls : createdNames (s₁.lose (Watch.engine c emit) p.item.ns status.task).calls
        = createdNames s.calls := by
      rw [Scene.createdNames_lose, Scene.createdNames_fetch fetched]
    have after := named.vanish p.item.ns status.task
    rw [← desk, ← Scene.desk_lose (c := c), ← calls] at after
    obtain ⟨names, grown, registry, making⟩ := creation.making orderly after fresh
    rw [calls] at grown
    rw [Scene.backend_lose, same.registry] at registry making
    rw [Scene.desk_lose, desk] at making
    exact ⟨names, grown, registry, .lost ⟨live, task⟩ missing making⟩
  | bare live bare creation =>
    obtain ⟨names, grown, registry, making⟩ := creation.making orderly named fresh
    exact ⟨names, grown, registry, .bare live bare making⟩

theorem Turn.work (orderly : c.IsOrderly) {definition : String} {out : Outcome}
    (turn : Turn (Watch.engine c emit) p prior definition s (.ok out) s')
    (named : s.desk.Named (old ++ createdNames s.calls))
    (fresh : (old ++ createdNames s'.calls).Nodup) :
    ∃ names, createdNames s'.calls = createdNames s.calls ++ names ∧
      s'.backend.registry = s.backend.registry ∧
      Work p s.backend.registry (statusOrFresh definition prior) s.desk out.status names
        s'.desk := by
  cases turn with
  | done look course =>
    obtain rfl := congrArg Prod.snd look
    rw [Scene.createdNames_announceChange] at fresh ⊢
    obtain ⟨names, grown, registry, work⟩ := course.work orderly named fresh
    rw [(Scene.same_announceChange _ _ _).registry, Scene.desk_announceChange]
    exact ⟨names, grown, registry, work⟩

/-- **Turns do their work**, one after the other. -/
theorem Turns.works (orderly : c.IsOrderly) {definitions : List String} {outs : List Outcome}
    (turns : Turns (Watch.engine c emit) p prior definitions s outs s')
    (named : s.desk.Named (old ++ createdNames s.calls))
    (fresh : (old ++ createdNames s'.calls).Nodup) :
    ∃ names, createdNames s'.calls = createdNames s.calls ++ names ∧
      s'.backend.registry = s.backend.registry ∧
      Works p s.backend.registry (definitions.map (statusOrFresh · prior)) s.desk
        (outs.map (·.status)) names s'.desk := by
  induction turns with
  | nil => exact ⟨[], (List.append_nil _).symm, rfl, .nil⟩
  | cons turn turns ih =>
    obtain ⟨names, grown, registry, work⟩ :=
      turn.work orderly named (nodup_names_of_earlier turns.calls_grow fresh)
    have after := work.named named
    rw [List.append_assoc, ← grown] at after
    obtain ⟨more, grown', registry', works⟩ := ih after fresh
    refine ⟨names ++ more, ?_, registry'.trans registry, .cons work ?_⟩
    · rw [grown', grown, List.append_assoc]
    · rwa [registry] at works

theorem Creation.desk_of_error {status : ItemStatus} {i : Interruption}
    (creation : Creation (Watch.engine c emit) p status s (.error i) s') : s'.desk = s.desk :=
  Scene.desk_of_same creation.same_of_error creation.quiet_of_error.1

theorem Course.desk_of_error (orderly : c.IsOrderly) {status : ItemStatus} {i : Interruption}
    (course : Course (Watch.engine c emit) p status s (.error i) s') :
    s'.desk = s.desk ∨ (status.IsWatched ∧
      s.desk.tasks.find? ⟨p.item.ns, status.task⟩ = none ∧
      s'.desk = s.desk.vanish p.item.ns status.task) := by
  cases course with
  | unanswered _ _ fetched | unread _ _ fetched _ => exact .inl (Scene.desk_fetch fetched)
  | lost live task fetched gone creation =>
    refine .inr ⟨⟨live, task⟩, Scene.missing_of_fetch orderly.get fetched gone, ?_⟩
    rw [creation.desk_of_error, Scene.desk_lose, Scene.desk_fetch fetched]
  | bare _ _ creation => exact .inl creation.desk_of_error

/-- **A turn that stops the pass** leaves the desk as it is, or has lost the entry's task. -/
theorem Turn.desk_of_error (orderly : c.IsOrderly) {definition : String} {i : Interruption}
    (turn : Turn (Watch.engine c emit) p prior definition s (.error i) s') :
    s'.desk = s.desk ∨ ((statusOrFresh definition prior).IsWatched ∧
      s.desk.tasks.find? ⟨p.item.ns, (statusOrFresh definition prior).task⟩ = none ∧
      s'.desk = s.desk.vanish p.item.ns (statusOrFresh definition prior).task) := by
  cases turn with
  | stopped look =>
    obtain rfl := congrArg Prod.snd look
    exact .inl rfl
  | interrupted look course =>
    obtain rfl := congrArg Prod.snd look
    exact course.desk_of_error orderly

end Engine

end DeployChecks
