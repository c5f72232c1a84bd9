import DeployChecks.Proofs.Host.Resumption
import DeployChecks.Proofs.Rounds.Shape

/-!
# Proofs/Host/FixedPoint — a pass that finds nothing new changes nothing

Whatever comes of a definition in a pass, it **lasts**: as long as nobody touches the tasks and the
definitions, the next pass finds it so and adds nothing.  Two facts make this hold for the pass as
a whole.  A turn leaves its own outcome lasting (`Turn.lasts`), and every turn after it spares the
tasks that run (`Turn.spares`), even if two entries should name the same one.  Main definitions:
`Outcome.again`, `Lasts`; main statement: `second_pass_changes_nothing`.
-/

namespace DeployChecks

open List (Forall₂)
open Trace (Context)

/-! ## Outcomes, and the same again -/

namespace Outcome

/-- **What the next pass makes of an outcome**, if nothing happens in between. -/
def again : Outcome → Outcome
  | unchanged x | refreshed x true => unchanged x
  | created x | refreshed x false => refreshed x false
  | skipped x reason => skipped x reason

/-- The task could not be created. -/
def IsRefused (o : Outcome) : Prop := ∃ x text, o = skipped x (.creationFailed text)

end Outcome

namespace Reconciliation

/-- **The result of a pass that finds nothing new.** -/
def unmoved (r : Reconciliation) : Reconciliation := { r with created := [], completed := [] }

theorem record_again (r : Reconciliation) (o : Outcome) :
    r.unmoved.record o.again = (r.record o).unmoved := by
  cases o with
  | refreshed x completed => cases completed <;> rfl
  | _ => rfl

/-- Outcomes that come again are recorded as before, but nothing is created or completed. -/
theorem foldl_record_again : ∀ (os : List Outcome) (r : Reconciliation),
    (os.map Outcome.again).foldl record r.unmoved = (os.foldl record r).unmoved
  | [], _ => rfl
  | o :: os, r => by
    rw [List.map_cons, List.foldl_cons, record_again, foldl_record_again os, List.foldl_cons]

end Reconciliation

/-! ## Tasks that run are spared -/

/-- **Every task that runs is kept.** -/
def Desk.Spares (ns : String) (d d' : Desk) : Prop :=
  ∀ name t, d.tasks.find? ⟨ns, name⟩ = some t → t.state.isTerminal = false → d.Keeps ns name d'

namespace Desk.Spares

variable {ns : String} {d d' d'' : Desk}

theorem refl (d : Desk) : d.Spares ns d := fun _ _ _ _ => .refl d

theorem of_eq (same : d' = d) : d.Spares ns d' := by
  rw [same]
  exact refl d

theorem trans (h : d.Spares ns d') (h' : d'.Spares ns d'') : d.Spares ns d'' :=
  fun name t found live =>
    have keeps := h name t found live
    keeps.trans (h' name t (keeps.found.trans found) live)

theorem bind (d : Desk) (parent : Context) (t : Task) : d.Spares ns (d.bind parent t) :=
  fun _ _ _ _ => .bind d parent t

/-- The span of a finished task is none of theirs. -/
theorem settle (parent : Context) {t : Task} {name : String}
    (found : d.tasks.find? ⟨ns, name⟩ = some t) (ended : t.state.isTerminal = true)
    (key : t.spanKey = .forTask ns name) : d.Spares ns (d.settle parent t) := by
  refine fun name' t' found' live => .settle parent key ?_
  rintro rfl
  obtain rfl : t = t' := Option.some.inj (found.symm.trans found')
  rw [live] at ended
  cases ended

/-- Nor is that of a task that is not there. -/
theorem vanish {name : String} (missing : d.tasks.find? ⟨ns, name⟩ = none) :
    d.Spares ns (d.vanish ns name) := by
  refine fun name' t' found' _ => .vanish ?_
  rintro rfl
  rw [missing] at found'
  cases found'

/-- A new task takes a key that was free. -/
theorem add (parent : Context) {t : Task} (key : t.key = ⟨ns, t.name⟩)
    (free : d.tasks.find? t.key = none) : d.Spares ns (d.add parent t) := by
  refine fun name' t' found' _ => .add parent ?_
  rintro rfl
  rw [key, found'] at free
  cases free

end Desk.Spares

namespace Engine

variable {ε : Type} {emit : PhaseEvent → Act ε (Except EventError Unit)} {c : Chance} {p : Pass}
  {prior : List ItemStatus} {s s' : Scene Memory (Watch ε)} {o : Outcome}

/-! ## What a turn does to the rest -/

theorem Creation.spares {x : ItemStatus}
    (creation : Creation (Watch.engine c emit) p x s (.ok o) s') :
    s'.backend.registry = s.backend.registry ∧ s.desk.Spares p.item.ns s'.desk := by
  cases creation with
  | unresolved resolved =>
    exact ⟨(Scene.resolve_cases resolved).1.registry, .of_eq (Scene.desk_resolve resolved)⟩
  | refused resolved drawn put =>
    exact ⟨(Scene.same_of_refused resolved drawn put).registry,
      .of_eq (Scene.desk_refused resolved drawn put)⟩
  | created resolved drawn put =>
    obtain ⟨rfl, free, -, registry⟩ := Scene.created_of_put resolved drawn put
    refine ⟨registry, ?_⟩
    rw [Scene.desk_created resolved drawn put]
    exact .add p.context rfl free

theorem Course.spares {x : ItemStatus} (course : Course (Watch.engine c emit) p x s (.ok o) s')
    (truthful : c.IsTruthful) (keyed : s.backend.store.IsKeyed) :
    s'.backend.registry = s.backend.registry ∧ s.desk.Spares p.item.ns s'.desk := by
  cases course with
  | finished => exact ⟨rfl, .refl _⟩
  | read live task fetched =>
    have found := Scene.found_of_fetch fetched
    refine ⟨((Scene.fetch_cases fetched).1.trans (Scene.same_refresh _ _)).registry, ?_⟩
    rw [Scene.desk_refresh, Scene.desk_fetch fetched, ItemStatus.completes_of_live live]
    split
    · next ended =>
      exact .settle p.context found ended (Task.spanKey_of_key (keyed _ _ found))
    · exact .bind _ _ _
  | lost _ _ fetched gone creation =>
    have missing : s.desk.tasks.find? ⟨p.item.ns, x.task⟩ = none :=
      Scene.missing_of_fetch truthful fetched gone
    obtain ⟨registry, spares⟩ := creation.spares
    rw [Scene.backend_lose] at registry
    rw [Scene.desk_lose, Scene.desk_fetch fetched] at spares
    exact ⟨registry.trans (Scene.fetch_cases fetched).1.registry,
      (Desk.Spares.vanish missing).trans spares⟩
  | bare _ _ creation => exact creation.spares

/-- **A turn touches no task that runs**, and no definition. -/
theorem Turn.spares {definition : String}
    (turn : Turn (Watch.engine c emit) p prior definition s (.ok o) s') (truthful : c.IsTruthful)
    (keyed : s.backend.store.IsKeyed) :
    s'.backend.registry = s.backend.registry ∧ s.desk.Spares p.item.ns s'.desk := by
  cases turn with
  | done look course =>
    obtain rfl := congrArg Prod.snd look
    obtain ⟨registry, spares⟩ := course.spares truthful keyed
    refine ⟨(Scene.same_announceChange _ _ _).registry.trans registry, ?_⟩
    rw [Scene.desk_announceChange]
    exact spares

end Engine

/-! ## Outcomes that last -/

/-- **An outcome that lasts**: its entry is stable, and if its task was not created, that was for
the want of a definition. -/
inductive Lasts (p : Pass) (defs : DefinitionRegistry) (d : Desk) : Outcome → Prop
  /-- The entry was finished before. -/
  | finished {x : ItemStatus} (terminal : x.isTerminal = true) : Lasts p defs d (.unchanged x)
  /-- It is finished now. -/
  | completed {x : ItemStatus} (terminal : x.isTerminal = true) : Lasts p defs d (.refreshed x true)
  /-- The task runs. -/
  | running {x : ItemStatus} (watched : x.IsWatched) (stable : Stable p defs d x) :
    Lasts p defs d (.refreshed x false)
  /-- The task is new. -/
  | created {x : ItemStatus} (watched : x.IsWatched) (stable : Stable p defs d x) :
    Lasts p defs d (.created x)
  /-- There is no definition. -/
  | unresolved {x : ItemStatus} {err : ResolveError} (live : x.isTerminal = false)
      (bare : x.hasTask = false) (missing : defs.resolve x.definition p.item.ns = .error err) :
    Lasts p defs d (.skipped x err.skipReason)

namespace Lasts

variable {p p' : Pass} {defs : DefinitionRegistry} {d d' : Desk} {o : Outcome}

/-- A watched entry that is stable stays so, as long as the tasks that run are spared. -/
theorem stable_of_spares {x : ItemStatus} (watched : x.IsWatched) (stable : Stable p defs d x)
    (spares : d.Spares p.item.ns d') : Stable p defs d' x := by
  refine stable.of_keeps fun _ => ?_
  cases stable with
  | finished terminal => exact absurd watched (ItemStatus.not_isWatched_of_terminal terminal)
  | running _ found state =>
    exact spares _ _ found (by rw [state]; exact watched.1)
  | bare _ bare => exact absurd watched (ItemStatus.not_isWatched_of_bare bare)

/-- **What lasts goes on to last**, as long as the tasks that run are spared. -/
theorem of_spares (lasts : Lasts p defs d o) (spares : d.Spares p.item.ns d') :
    Lasts p defs d' o := by
  cases lasts with
  | finished terminal => exact .finished terminal
  | completed terminal => exact .completed terminal
  | running watched stable => exact .running watched (stable_of_spares watched stable spares)
  | created watched stable => exact .created watched (stable_of_spares watched stable spares)
  | unresolved live bare missing => exact .unresolved live bare missing

/-- Of the pass only the namespace matters. -/
theorem of_ns (lasts : Lasts p defs d o) (same : p'.item.ns = p.item.ns) : Lasts p' defs d o := by
  have stays {x : ItemStatus} (stable : Stable p defs d x) : Stable p' defs d x := by
    cases stable with
    | finished terminal => exact .finished terminal
    | running watched found state key bound =>
      exact .running watched (same ▸ found) state (same ▸ key) bound
    | bare live bare missing => exact .bare live bare (same ▸ missing)
  cases lasts with
  | finished terminal => exact .finished terminal
  | completed terminal => exact .completed terminal
  | running watched stable => exact .running watched (stays stable)
  | created watched stable => exact .created watched (stays stable)
  | unresolved live bare missing => exact .unresolved live bare (same ▸ missing)

end Lasts

namespace Engine

variable {ε : Type} {emit : PhaseEvent → Act ε (Except EventError Unit)} {c : Chance} {p : Pass}
  {prior : List ItemStatus} {s s' : Scene Memory (Watch ε)} {o : Outcome}

/-! ## What a turn leaves -/

theorem Creation.lasts {x : ItemStatus} (creation : Creation (Watch.engine c emit) p x s (.ok o) s')
    (faithful : ∀ n err, c.resolve n ≠ .failed err) (accepted : ¬ o.IsRefused)
    (bare : x.hasTask = false) (pending : x.state = .pending) :
    Lasts p s.backend.registry s'.desk o := by
  have live : x.isTerminal = false := by rw [ItemStatus.isTerminal, pending]; rfl
  cases creation with
  | unresolved resolved =>
    obtain ⟨-, answer | ⟨n, err, failed, -⟩ | answer⟩ := Scene.resolve_cases resolved
    · cases answer
    · exact absurd failed (faithful n err)
    · exact .unresolved live bare (Option.some.inj answer).symm
  | refused => exact absurd ⟨_, _, rfl⟩ accepted
  | @created _ _ _ t draw _ resolved drawn put =>
    obtain ⟨rfl, -⟩ := Scene.created_of_put resolved drawn put
    refine .created ⟨live, ItemStatus.hasTask_iff.2 (p.name_stamp_ne_empty t draw)⟩ ?_
    rw [Scene.desk_created resolved drawn put]
    exact (Making.made draw _ (Scene.resolved_of_resolve resolved)).stable bare pending

theorem Course.lasts {x : ItemStatus} (course : Course (Watch.engine c emit) p x s (.ok o) s')
    (faithful : ∀ n err, c.resolve n ≠ .failed err) (accepted : ¬ o.IsRefused)
    (keyed : s.backend.store.IsKeyed) (sound : x.IsSound) :
    Lasts p s.backend.registry s'.desk o := by
  cases course with
  | finished terminal => exact .finished terminal
  | @read _ t live task fetched =>
    have found := Scene.found_of_fetch fetched
    have key := Task.spanKey_of_key (keyed _ _ found)
    rw [Scene.desk_refresh, Scene.desk_fetch fetched]
    unfold Scene.refresh
    rw [ItemStatus.completes_of_live live]
    split
    · next ended => exact .completed ended
    · next running =>
      have watched : ItemStatus.IsWatched { x with state := t.state } :=
        ⟨Bool.eq_false_iff.2 running, task⟩
      exact .running watched (.running watched found rfl key
        ((s.desk.isBound_bind _ _ _).2 (.inl rfl)))
  | lost _ _ fetched _ creation =>
    have lasts := creation.lasts faithful accepted rfl rfl
    rwa [Scene.backend_lose, (Scene.fetch_cases fetched).1.registry] at lasts
  | bare _ bare creation => exact creation.lasts faithful accepted bare (sound bare)

/-- **A turn leaves its outcome lasting**, unless the task was refused. -/
theorem Turn.lasts {definition : String}
    (turn : Turn (Watch.engine c emit) p prior definition s (.ok o) s')
    (faithful : ∀ n err, c.resolve n ≠ .failed err) (accepted : ¬ o.IsRefused)
    (keyed : s.backend.store.IsKeyed) (sound : (statusOrFresh definition prior).IsSound) :
    Lasts p s.backend.registry s'.desk o := by
  cases turn with
  | done look course =>
    obtain rfl := congrArg Prod.snd look
    rw [Scene.desk_announceChange]
    exact course.lasts faithful accepted keyed sound

/-- **Turns leave their outcomes lasting.** -/
theorem Turns.lasts {definitions : List String} {os : List Outcome}
    (turns : Turns (Watch.engine c emit) p prior definitions s os s') (truthful : c.IsTruthful)
    (faithful : ∀ n err, c.resolve n ≠ .failed err) (keyed : s.backend.store.IsKeyed)
    (sound : ∀ x ∈ prior, x.IsSound) (accepted : ∀ o ∈ os, ¬ o.IsRefused) :
    (s'.backend.registry = s.backend.registry ∧ s.desk.Spares p.item.ns s'.desk) ∧
      ∀ o ∈ os, Lasts p s'.backend.registry s'.desk o := by
  induction turns with
  | nil => exact ⟨⟨rfl, .refl _⟩, fun o mem => absurd mem List.not_mem_nil⟩
  | @cons definition _ _ _ _ o os turn turns ih =>
    obtain ⟨first, others⟩ := List.forall_mem_cons.1 accepted
    obtain ⟨registry, spares⟩ := turn.spares truthful keyed
    have lasts := turn.lasts faithful first keyed (isSound_statusOrFresh sound definition)
    obtain ⟨⟨registry', spares'⟩, last⟩ := ih (turn.isKeyed keyed) others
    refine ⟨⟨registry'.trans registry, spares.trans spares'⟩,
      List.forall_mem_cons.2 ⟨?_, last⟩⟩
    rw [registry', registry]
    exact lasts.of_spares spares'

end Engine

/-! ## The same again -/

/-- **Nothing but a question**: the call asks for a task, a definition, or a span that is there. -/
def Call.isQuestion : Call → Bool
  | .get _ _ | .resolve _ _ | .getOrOpen _ => true
  | .create _ | .openSpan _ | .lookup _ | .close _ _ _ | .unbind _ | .emit _ => false

/-- **Between two scenes only questions are asked**, and nothing is touched. -/
structure Scene.Unmoved {ε : Type} (s s' : Scene Memory (Watch ε)) : Prop where
  /-- The tasks and the definitions. -/
  memory : Memory.Same s.backend s'.backend
  /-- The spans, and whatever takes the events. -/
  observer : s'.observer = s.observer
  /-- The calls. -/
  calls : ∃ l, s'.calls = s.calls ++ l ∧ ∀ call ∈ l, call.isQuestion = true

namespace Scene.Unmoved

variable {ε : Type} {emit : PhaseEvent → Act ε (Except EventError Unit)} {c : Chance} {p : Pass}
  {s s₁ s₂ : Scene Memory (Watch ε)}

theorem refl (s : Scene Memory (Watch ε)) : s.Unmoved s :=
  ⟨.refl _, rfl, [], (List.append_nil _).symm, fun _ mem => absurd mem List.not_mem_nil⟩

theorem trans (h : s.Unmoved s₁) (h' : s₁.Unmoved s₂) : s.Unmoved s₂ := by
  obtain ⟨l, calls, questions⟩ := h.calls
  obtain ⟨l', calls', questions'⟩ := h'.calls
  refine ⟨h.memory.trans h'.memory, h'.observer.trans h.observer, l ++ l', ?_,
    List.forall_mem_append.2 ⟨questions, questions'⟩⟩
  rw [calls', calls, List.append_assoc]

theorem desk (h : s.Unmoved s₁) : s₁.desk = s.desk := desk_of_same h.memory h.observer

theorem look : s.Unmoved (s.look (Watch.engine c emit)).2 :=
  ⟨same_look, rfl, [], (List.append_nil _).symm, fun _ mem => absurd mem List.not_mem_nil⟩

theorem of_ask {α : Type} {call : Call} {x : Act Memory (Option α)} {answer : Option α}
    (asked : s.ask (Watch.engine c emit) call x = (answer, s₁)) (question : call.isQuestion = true)
    (memory : Memory.Same s.backend s₁.backend) : s.Unmoved s₁ := by
  refine ⟨memory, s.observer_ask _ asked, ?_⟩
  obtain calls | calls := s.calls_ask _ asked
  · exact ⟨[], by rw [calls, List.append_nil], fun _ mem => absurd mem List.not_mem_nil⟩
  · exact ⟨[call], calls, by simpa using question⟩

theorem fetch {status : ItemStatus} {answer : Option (Except StoreError Task)}
    (fetched : s.fetch (Watch.engine c emit) p status = (answer, s₁)) : s.Unmoved s₁ :=
  of_ask fetched rfl (fetch_cases fetched).1

theorem resolve {status : ItemStatus} {answer : Option (Except ResolveError TaskDefinition)}
    (resolved : s.resolve (Watch.engine c emit) p status = (answer, s₁)) : s.Unmoved s₁ :=
  of_ask resolved rfl (resolve_cases resolved).1

/-- The span of a running task is there. -/
theorem span {t : Task} (bound : s.desk.IsBound t.spanKey) :
    s.Unmoved (s.span (Watch.engine c emit) p t).2 := by
  refine ⟨.refl _, ?_, [.getOrOpen t.spanKey], rfl, by simp [Call.isQuestion]⟩
  exact congrArg (fun spans => { s.observer with spans })
    (SpanRegistry.bind_of_isBound bound p.context t.spanAttributes)

end Scene.Unmoved

namespace Engine

variable {ε : Type} {emit : PhaseEvent → Act ε (Except EventError Unit)} {c : Chance} {p : Pass}
  {prior : List ItemStatus} {s s' : Scene Memory (Watch ε)} {o o' : Outcome}

/-- A stable entry with a running task is read back as it is. -/
theorem Course.again_of_watched {x : ItemStatus}
    (course : Course (Watch.engine c emit) p x s (.ok o') s') (truthful : c.IsTruthful)
    (watched : x.IsWatched) (stable : Stable p s.backend.registry s.desk x) :
    o' = .refreshed x false ∧ s.Unmoved s' := by
  cases stable with
  | finished terminal => exact absurd watched (ItemStatus.not_isWatched_of_terminal terminal)
  | bare _ bare => exact absurd watched (ItemStatus.not_isWatched_of_bare bare)
  | @running t _ found state key bound =>
    cases course with
    | finished terminal => exact absurd watched (ItemStatus.not_isWatched_of_terminal terminal)
    | @read s₁ t' live _ fetched =>
      obtain rfl : t = t' := Option.some.inj (found.symm.trans (Scene.found_of_fetch fetched))
      have asked := Scene.Unmoved.fetch fetched
      unfold Scene.refresh
      rw [ItemStatus.completes_of_live live, state, show x.state.isTerminal = false from live]
      exact ⟨rfl, asked.trans (.span (by rwa [asked.desk]))⟩
    | lost _ _ fetched gone =>
      have missing := Scene.missing_of_fetch truthful fetched gone
      rw [show s.backend.store.peek ⟨p.item.ns, x.task⟩ = some t from found] at missing
      cases missing
    | bare _ bare => exact absurd watched (ItemStatus.not_isWatched_of_bare bare)

/-- An entry without a definition is left again. -/
theorem Course.again_of_bare {x : ItemStatus}
    (course : Course (Watch.engine c emit) p x s (.ok o') s')
    (faithful : ∀ n err, c.resolve n ≠ .failed err) (live : x.isTerminal = false)
    (bare : x.hasTask = false) {err : ResolveError}
    (missing : s.backend.registry.resolve x.definition p.item.ns = .error err) :
    o' = .skipped x err.skipReason ∧ s.Unmoved s' := by
  have unwatched := ItemStatus.not_isWatched_of_bare bare
  cases course with
  | finished terminal =>
    rw [live] at terminal
    cases terminal
  | read live task => exact absurd ⟨live, task⟩ unwatched
  | lost live task => exact absurd ⟨live, task⟩ unwatched
  | bare _ _ creation =>
    cases creation with
    | unresolved resolved =>
      refine ⟨?_, .resolve resolved⟩
      obtain ⟨-, answer | ⟨n, err, failed, -⟩ | answer⟩ := Scene.resolve_cases resolved
      · cases answer
      · exact absurd failed (faithful n err)
      · rw [missing] at answer
        cases answer
        rfl
    | refused resolved | created resolved =>
      rw [Scene.resolved_of_resolve resolved] at missing
      cases missing

/-- **What lasts comes again**, and nothing is touched for it. -/
theorem Course.again (course : Course (Watch.engine c emit) p o.status s (.ok o') s')
    (truthful : c.IsTruthful) (faithful : ∀ n err, c.resolve n ≠ .failed err)
    (lasts : Lasts p s.backend.registry s.desk o) : o' = o.again ∧ s.Unmoved s' := by
  cases lasts with
  | finished terminal | completed terminal =>
    obtain ⟨⟨⟩, rfl⟩ := course.eq_of_terminal terminal
    exact ⟨rfl, .refl _⟩
  | running watched stable | created watched stable =>
    exact course.again_of_watched truthful watched stable
  | unresolved live bare missing => exact course.again_of_bare faithful live bare missing

theorem Turn.again {definition : String}
    (turn : Turn (Watch.engine c emit) p prior definition s (.ok o') s')
    (truthful : c.IsTruthful) (faithful : ∀ n err, c.resolve n ≠ .failed err)
    (stored : findStatus definition prior = some o.status)
    (lasts : Lasts p s.backend.registry s.desk o) : o' = o.again ∧ s.Unmoved s' := by
  have entry : statusOrFresh definition prior = o.status := by rw [statusOrFresh, stored]; rfl
  cases turn with
  | done look course =>
    obtain rfl := congrArg Prod.snd look
    rw [entry] at course
    obtain ⟨rfl, unmoved⟩ := course.again truthful faithful lasts
    refine ⟨rfl, ?_⟩
    have same : o.again.status = o.status := by
      cases o with
      | refreshed x completed => cases completed <;> rfl
      | _ => rfl
    -- no event is due, since the state is that of the stored entry
    rw [Scene.announceChange, stored, same, Option.map_some, if_pos rfl]
    exact .trans .look unmoved

/-- **What lasts comes again**, turn after turn. -/
theorem Turns.again {definitions : List String} {os os' : List Outcome}
    (turns : Turns (Watch.engine c emit) p prior definitions s os' s') (truthful : c.IsTruthful)
    (faithful : ∀ n err, c.resolve n ≠ .failed err)
    (stored : Forall₂ (fun definition o => findStatus definition prior = some o.status)
      definitions os)
    (lasts : ∀ o ∈ os, Lasts p s.backend.registry s.desk o) :
    os' = os.map Outcome.again ∧ s.Unmoved s' := by
  induction turns generalizing os with
  | nil =>
    cases stored
    exact ⟨rfl, .refl _⟩
  | cons turn turns ih =>
    cases stored with
    | cons first rest =>
      obtain ⟨lasts, others⟩ := List.forall_mem_cons.1 lasts
      obtain ⟨rfl, unmoved⟩ := turn.again truthful faithful first lasts
      rw [← unmoved.memory.registry, ← unmoved.desk] at others
      obtain ⟨rfl, unmoved'⟩ := ih rest others
      exact ⟨rfl, unmoved.trans unmoved'⟩

end Engine

/-- With one entry per name, each name finds its own. -/
theorem forall₂_findStatus {statuses : List ItemStatus} {declared : List String}
    (names : statuses.map (·.definition) = declared) (distinct : declared.Nodup) :
    Forall₂ (fun definition x => findStatus definition statuses = some x) declared statuses := by
  subst names
  rw [List.forall₂_map_left_iff, List.forall₂_same]
  exact fun x hx =>
    findStatus_eq_some hx rfl fun y hy same => List.inj_on_of_nodup_map distinct hy hx same

namespace Host

variable {ε : Type} {emit : PhaseEvent → Act ε (Except EventError Unit)} {group : CheckGroup}
  {h : Host (Watch ε)} {context : Context} {c c' : Chance} {r : Reconciliation}

/-- What a pass that came to its end leaves, lasts. -/
theorem lasts_pass (complete : (h.pass (.watched emit group) context c).1 = .ok r)
    (accepted : ∀ s ∈ r.skipped, ∀ text, s.reason ≠ .creationFailed text)
    (truthful : c.IsTruthful) (faithful : ∀ n err, c.resolve n ≠ .failed err)
    (keyed : h.store.IsKeyed) (sound : ∀ x ∈ h.statuses (.watched emit group), x.IsSound) :
    ∃ os : List Outcome, r = (os.foldl Reconciliation.record .empty).summarized ∧
      ∀ o ∈ os, Lasts (h.passOf (.watched emit group) context)
        (h.pass (.watched emit group) context c).2.registry
        (h.pass (.watched emit group) context c).2.desk o := by
  have ending := h.pass_ending (.watched emit group) context c
  rw [complete] at ending
  cases ending with
  | @complete os _ turns =>
    refine ⟨os, rfl, (turns.lasts truthful faithful keyed sound ?_).2⟩
    rintro o mem ⟨x, text, rfl⟩
    refine accepted ⟨x.definition, .creationFailed text⟩ ?_ text rfl
    rw [Reconciliation.summarized, Reconciliation.skipped_foldl_record]
    exact List.mem_append_right _ (List.mem_filterMap.2 ⟨_, mem, rfl⟩)

/-- A pass over outcomes that last. -/
theorem pass_of_lasts (context' : Context) {os : List Outcome} (calm : c'.IsCalm)
    (stored : h.statuses (.watched emit group) = os.map (·.status))
    (names : (h.statuses (.watched emit group)).map (·.definition)
      = h.declared (.watched emit group))
    (distinct : (h.declared (.watched emit group)).Nodup)
    (lasts : ∀ o ∈ os, Lasts (h.passOf (.watched emit group) context') h.registry h.desk o) :
    (h.pass (.watched emit group) context' c').1
        = .ok (os.foldl Reconciliation.record .empty).summarized.unmoved ∧
      h.world.scene.Unmoved (h.sceneAfter (.watched emit group) context' c') := by
  obtain ⟨r, complete⟩ : ∃ r, (h.pass (.watched emit group) context' c').1 = .ok r :=
    pass_ok_of_calm calm
  have ending := h.pass_ending (.watched emit group) context' c'
  rw [complete] at ending ⊢
  have found := forall₂_findStatus names distinct
  rw [stored, List.forall₂_map_right_iff] at found
  rw [stored] at ending
  cases ending with
  | complete turns =>
    obtain ⟨rfl, unmoved⟩ := turns.again calm.isOrderly.get calm.isOrderly.resolve found lasts
    refine ⟨?_, unmoved⟩
    rw [show Reconciliation.empty = Reconciliation.empty.unmoved from rfl,
      Reconciliation.foldl_record_again]
    rfl

open MemoryRound in
/-- **A pass that finds nothing new changes nothing.**  The entries of an item are what any rounds
in memory have made of none, and no name is declared twice; the tasks, which stand under their own
keys, the definitions and the spans are any.  A pass over them comes to its end, and no task is
refused; tasks may be lost, and definitions missing.  What it hands over is stored, and in the next
pass nothing goes wrong.  That pass hands over the same entries and the same summary, leaves the
same definitions for the same reasons, and creates and completes nothing.  Tasks, definitions, spans
and whatever takes the events stay as they are, and all that is asked for is tasks, definitions and
spans that are there: no task is created, no event announced, no span opened, closed or given up. -/
theorem second_pass_changes_nothing {τ : Type} (group : CheckGroup) (rounds : List (MemoryRound τ))
    (item : PhaseItem) (emit : PhaseEvent → Act ε (Except EventError Unit)) (store : TaskStore)
    (registry : DefinitionRegistry) (watcher : Watch ε) (journal : List Entry)
    (context context' : Context) (c c' : Chance) (r : Reconciliation)
    (distinct : (item.declared group).Nodup) (keyed : store.IsKeyed) (truthful : c.IsTruthful)
    (faithful : ∀ n err, c.resolve n ≠ .failed err) (calm : c'.IsCalm) :
    let u := Setup.watched emit group
    let h : Host (Watch ε) := ⟨item.setStatuses group (Round.run group [] (rounds.map round)),
      store, registry, watcher, journal⟩
    let first := h.pass u context c
    let second := first.2.pass u context' c'
    first.1 = .ok r →
    (∀ s ∈ r.skipped, ∀ text, s.reason ≠ .creationFailed text) →
    second.1 = .ok r.unmoved ∧
      second.2.store.tasks = first.2.store.tasks ∧ second.2.registry = first.2.registry ∧
      second.2.watcher = first.2.watcher ∧
      ∃ l, second.2.calls = first.2.calls ++ l ∧ ∀ call ∈ l, call.isQuestion = true := by
  intro u h first second complete accepted
  have kept : h.statuses u = Round.run group [] (rounds.map round) :=
    item.statuses_setStatuses_self group _
  have sound : ∀ x ∈ h.statuses u, x.IsSound := by
    intro x mem bare
    rw [kept] at mem
    exact ((isWellFormed_run rounds (fun x mem => absurd mem List.not_mem_nil) x mem).bare bare).1
  have declared : (h.declared u).Nodup := by
    rwa [show h.declared u = item.declared group from item.declared_withStatus _ group]
  obtain ⟨os, rfl, lasts⟩ := lasts_pass complete accepted truthful faithful keyed sound
  have stored : first.2.statuses u = os.map (·.status) := by
    rw [h.statuses_pass u context c, show (h.pass u context c).1 = _ from complete]
    exact Reconciliation.statuses_foldl_record os .empty
  have names : (first.2.statuses u).map (·.definition) = first.2.declared u :=
    (h.definitions_pass u context c).trans (h.declared_step u (.pass context c)).symm
  have declared' : (first.2.declared u).Nodup := by
    rwa [show first.2.declared u = h.declared u from h.declared_step u (.pass context c)]
  obtain ⟨again, unmoved⟩ := pass_of_lasts context' calm stored names declared'
    fun o mem => (lasts o mem).of_ns (h.ns_step u (.pass context c))
  exact ⟨again, unmoved.memory.tasks, unmoved.memory.registry, unmoved.observer, unmoved.calls⟩

/-- A lost task is replaced and another definition is missing; then nothing happens. -/
theorem second_pass_changes_nothing_after_a_loss :
    let u : Setup (Watch Unit) := .watched (fun _ => Act.silent (pure (.ok ()))) .pre
    let rounds := [Sample.memoryRound .empty]
    let registry := (DefinitionRegistry.empty "shared").register (Sample.definition "smoke")
    let h : Host (Watch Unit) :=
      ⟨(Sample.item ["smoke", "ghost"]).setStatuses .pre
        (Round.run .pre [] (rounds.map (·.round))), .empty, registry, Sample.watch, []⟩
    let first := h.pass u .empty { Chance.calm with draw := (· + 100) }
    let second := first.2.pass u .empty { Chance.calm with draw := (· + 200) }
    let stored : List ItemStatus :=
      [⟨"smoke", "pre-smoke-10105", .pending, some default, none⟩, .fresh "ghost"]
    let skipped : List SkippedItem := [⟨"ghost", .definitionNotFound⟩]
    h.statuses u = [⟨"smoke", "pre-smoke-10003", .pending, some default, none⟩] ∧
      first.1 = .ok ⟨stored, .ofStatuses stored, ["smoke"], [], skipped⟩ ∧
      second.1 = .ok ⟨stored, .ofStatuses stored, [], [], skipped⟩ ∧
      second.2.watcher = first.2.watcher := by
  intro u rounds registry h first second stored skipped
  have complete : first.1 = .ok ⟨stored, .ofStatuses stored, ["smoke"], [], skipped⟩ := by
    decide +kernel
  have orderly := (Chance.isCalm_calm (· + 100)).isOrderly
  have unmoved := second_pass_changes_nothing .pre rounds (Sample.item ["smoke", "ghost"])
    (fun _ => Act.silent (pure (.ok ()))) .empty registry Sample.watch [] .empty .empty
    { Chance.calm with draw := (· + 100) } { Chance.calm with draw := (· + 200) }
    ⟨stored, .ofStatuses stored, ["smoke"], [], skipped⟩ (by decide) TaskStore.isKeyed_empty
    orderly.get orderly.resolve (Chance.isCalm_calm (· + 200)) complete (by simp [skipped])
  have watcher : second.2.watcher = first.2.watcher := by
    with_reducible exact unmoved.2.2.2.1
  exact ⟨by decide +kernel, complete, unmoved.1, watcher⟩

end Host

end DeployChecks
