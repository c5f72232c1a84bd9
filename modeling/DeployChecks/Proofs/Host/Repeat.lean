import DeployChecks.Proofs.Host.Work

/-!
# Proofs/Host/Repeat — visits that are made again

The host stores what a pass that was cut short has done, and the next pass visits all entries
again.  An entry that was visited is **stable**: another visit finds it as it left it.  The entry at
which the pass was cut may have lost its task already; its span is closed then, and closing it again
changes nothing.  So both passes together do the work of one.  Main definition: `Stable`; main
statements: `Works.stable`, `Works.of_stable`, `Works.resume`.
-/

namespace DeployChecks

variable {p : Pass} {defs : DefinitionRegistry} {x b : ItemStatus} {d d' : Desk}
  {known names : List String}

/-! ## The work of a visit, by its entry -/

/-- Without a definition, no task is made. -/
theorem Making.of_error (making : Making p defs x d b names d') {err : ResolveError}
    (resolved : defs.resolve x.definition p.item.ns = .error err) :
    b = x ∧ names = [] ∧ d' = d := by
  cases making with
  | unresolved => exact ⟨rfl, rfl, rfl⟩
  | made _ _ found =>
    rw [resolved] at found
    cases found

/-- With a definition, a task is made. -/
theorem Making.of_ok (making : Making p defs x d b names d') {t : TaskDefinition}
    (resolved : defs.resolve x.definition p.item.ns = .ok t) :
    ∃ draw now, b = { x with task := (p.stamp t draw).name }.started now ∧
      names = [(p.stamp t draw).name] ∧ d' = d.add p.context (p.stamp t draw) := by
  cases making with
  | unresolved missing =>
    rw [resolved] at missing
    cases missing
  | made draw now found =>
    obtain rfl : t = _ := Except.ok.inj (resolved.symm.trans found)
    exact ⟨draw, now, rfl, rfl, rfl⟩

namespace Work

/-- A finished entry stays as it is. -/
theorem of_terminal (work : Work p defs x d b names d') (terminal : x.isTerminal = true) :
    b = x ∧ names = [] ∧ d' = d := by
  cases work with
  | finished => exact ⟨rfl, rfl, rfl⟩
  | running watched | completed _ watched | lost watched =>
    exact absurd watched (ItemStatus.not_isWatched_of_terminal terminal)
  | bare live =>
    rw [terminal] at live
    cases live

/-- A task that is there is read back. -/
theorem of_found (work : Work p defs x d b names d') (watched : x.IsWatched) {t : Task}
    (found : d.tasks.find? ⟨p.item.ns, x.task⟩ = some t) :
    names = [] ∧
      ((t.state.isTerminal = false ∧ b = { x with state := t.state } ∧ d' = d.bind p.context t) ∨
        (t.state.isTerminal = true ∧ (∃ now, b = { x with state := t.state }.ended now) ∧
          d' = d.settle p.context t)) := by
  cases work with
  | finished terminal => exact absurd watched (ItemStatus.not_isWatched_of_terminal terminal)
  | running _ found' live =>
    obtain rfl := Option.some.inj (found.symm.trans found')
    exact ⟨rfl, .inl ⟨live, rfl, rfl⟩⟩
  | completed now _ found' ended =>
    obtain rfl := Option.some.inj (found.symm.trans found')
    exact ⟨rfl, .inr ⟨ended, ⟨now, rfl⟩, rfl⟩⟩
  | lost _ missing =>
    rw [found] at missing
    cases missing
  | bare _ bare => exact absurd watched (ItemStatus.not_isWatched_of_bare bare)

/-- A task that is lost is replaced. -/
theorem of_missing (work : Work p defs x d b names d') (watched : x.IsWatched)
    (missing : d.tasks.find? ⟨p.item.ns, x.task⟩ = none) :
    Making p defs x.withoutTask (d.vanish p.item.ns x.task) b names d' := by
  cases work with
  | finished terminal => exact absurd watched (ItemStatus.not_isWatched_of_terminal terminal)
  | running _ found | completed _ _ found =>
    rw [missing] at found
    cases found
  | lost _ _ making => exact making
  | bare _ bare => exact absurd watched (ItemStatus.not_isWatched_of_bare bare)

/-- A task that never was is made. -/
theorem of_bare (work : Work p defs x d b names d') (live : x.isTerminal = false)
    (bare : x.hasTask = false) : Making p defs x d b names d' := by
  cases work with
  | finished terminal =>
    rw [live] at terminal
    cases terminal
  | running watched | completed _ watched | lost watched =>
    exact absurd watched (ItemStatus.not_isWatched_of_bare bare)
  | bare _ _ making => exact making

/-- **A task that is lost twice**: the second time its span is closed already. -/
theorem of_vanished (work : Work p defs x (d.vanish p.item.ns x.task) b names d')
    (watched : x.IsWatched) (missing : d.tasks.find? ⟨p.item.ns, x.task⟩ = none) :
    Work p defs x d b names d' := by
  have making := work.of_missing watched missing
  rw [Desk.vanish_vanish] at making
  exact .lost watched missing making

end Work

/-! ## What a visit leaves for the next one -/

/-- **An entry that the next visit leaves as it is**: it is finished, its task is there in the same
state with its span bound, or there is no definition to make a task from. -/
inductive Stable (p : Pass) (defs : DefinitionRegistry) (d : Desk) (x : ItemStatus) : Prop
  /-- The entry is finished. -/
  | finished (terminal : x.isTerminal = true)
  /-- The task is there. -/
  | running {t : Task} (watched : x.IsWatched)
      (found : d.tasks.find? ⟨p.item.ns, x.task⟩ = some t) (state : t.state = x.state)
      (key : t.spanKey = .forTask p.item.ns x.task) (bound : d.IsBound t.spanKey)
  /-- There is no definition. -/
  | bare {err : ResolveError} (live : x.isTerminal = false) (bare : x.hasTask = false)
      (missing : defs.resolve x.definition p.item.ns = .error err)

/-- **A stable entry is left as it is**, and so is the desk. -/
theorem Work.of_stable (work : Work p defs x d b names d') (stable : Stable p defs d x) :
    b = x ∧ names = [] ∧ d' = d := by
  cases stable with
  | finished terminal => exact work.of_terminal terminal
  | running watched found state _ bound =>
    obtain ⟨rfl, ⟨-, rfl, rfl⟩ | ⟨ended, -⟩⟩ := work.of_found watched found
    · refine ⟨?_, rfl, Desk.bind_of_isBound p.context bound⟩
      rw [state]
    · rw [state] at ended
      exact absurd watched (ItemStatus.not_isWatched_of_terminal ended)
  | bare live bare missing => exact (work.of_bare live bare).of_error missing

/-- What is made is stable. -/
theorem Making.stable (making : Making p defs x d b names d') (bare : x.hasTask = false)
    (pending : x.state = .pending) : Stable p defs d' b := by
  have live : x.isTerminal = false := by rw [ItemStatus.isTerminal, pending]; rfl
  cases making with
  | unresolved missing => exact .bare live bare missing
  | @made t draw now found =>
    have name := p.name_stamp_ne_empty t draw
    have key : (p.stamp t draw).key = ⟨p.item.ns, (p.stamp t draw).name⟩ := rfl
    have state : (p.stamp t draw).state = x.state := pending.symm
    generalize p.stamp t draw = new at name key state ⊢
    refine .running ⟨live, ItemStatus.hasTask_iff.2 name⟩ ?_ state (Task.spanKey_of_key key)
      ((d.isBound_add _ _ _).2 (.inl rfl))
    rw [Desk.tasks_add, Keyed.find?_insert, key]
    exact if_pos rfl

/-- **A visit leaves its entry stable**, if an entry without a task is pending. -/
theorem Work.stable (work : Work p defs x d b names d') (named : d.Named known)
    (pending : x.hasTask = false → x.state = .pending) : Stable p defs d' b := by
  cases work with
  | finished terminal => exact .finished terminal
  | running watched found live =>
    exact .running ⟨live, watched.2⟩ found rfl (named.spanKey found)
      ((d.isBound_bind _ _ _).2 (.inl rfl))
  | completed _ _ _ ended => exact .finished ended
  | lost _ _ making => exact making.stable rfl rfl
  | bare _ bare making => exact making.stable bare (pending bare)

/-! ## Other visits -/

/-- **A task is kept**: it is found as before, and its span stays bound. -/
structure Desk.Keeps (ns task : String) (d d' : Desk) : Prop where
  /-- The task. -/
  found : d'.tasks.find? ⟨ns, task⟩ = d.tasks.find? ⟨ns, task⟩
  /-- The span. -/
  bound : d.IsBound (.forTask ns task) → d'.IsBound (.forTask ns task)

namespace Desk.Keeps

variable {ns task : String}

theorem refl (d : Desk) : Keeps ns task d d := ⟨rfl, id⟩

theorem trans {d'' : Desk} (h : Keeps ns task d d') (h' : Keeps ns task d' d'') :
    Keeps ns task d d'' := ⟨h'.found.trans h.found, h'.bound ∘ h.bound⟩

theorem bind (d : Desk) (parent : Trace.Context) (t : Task) : Keeps ns task d (d.bind parent t) :=
  ⟨rfl, fun bound => (d.isBound_bind _ parent t).2 (.inr bound)⟩

theorem settle (parent : Trace.Context) {t : Task} {name : String}
    (key : t.spanKey = .forTask ns name) (other : name ≠ task) :
    Keeps ns task d (d.settle parent t) := by
  refine ⟨rfl, fun bound => (d.isBound_settle _ parent t).2 ⟨fun same => other ?_, bound⟩⟩
  rw [key] at same
  exact (SpanKey.forTask_inj.1 same).symm

theorem vanish {name : String} (other : name ≠ task) : Keeps ns task d (d.vanish ns name) :=
  ⟨rfl, fun bound => (d.isBound_vanish _ ns name).2
    ⟨fun same => other (SpanKey.forTask_inj.1 same).symm, bound⟩⟩

theorem add (parent : Trace.Context) {t : Task} (other : t.name ≠ task) :
    Keeps ns task d (d.add parent t) := by
  refine ⟨?_, fun bound => (d.isBound_add _ parent t).2 (.inr bound)⟩
  rw [tasks_add, Keyed.find?_insert]
  exact if_neg fun same => other (congrArg TaskKey.name same).symm

end Desk.Keeps

theorem Making.keeps (making : Making p defs x d b names d') {task : String}
    (old : task ∉ names) : d.Keeps p.item.ns task d' := by
  cases making with
  | unresolved => exact .refl d
  | made => exact .add p.context fun same => old (by simp [same])

/-- **A visit keeps the tasks of other entries.** -/
theorem Work.keeps (work : Work p defs x d b names d') (named : d.Named known) {task : String}
    (other : x.task ≠ task) (old : task ∉ names) : d.Keeps p.item.ns task d' := by
  cases work with
  | finished => exact .refl d
  | running => exact .bind d p.context _
  | completed _ _ found => exact .settle p.context (named.spanKey found) other
  | lost _ _ making => exact (Desk.Keeps.vanish other).trans (making.keeps old)
  | bare _ _ making => exact making.keeps old

theorem Works.keeps {xs bs : List ItemStatus} (works : Works p defs xs d bs names d')
    (named : d.Named known) {task : String} (other : ∀ x ∈ xs, x.task ≠ task)
    (old : task ∉ names) : d.Keeps p.item.ns task d' := by
  induction works generalizing known with
  | nil => exact .refl _
  | cons work works ih =>
    rw [List.mem_append, not_or] at old
    exact (work.keeps named (other _ List.mem_cons_self) old.1).trans
      (ih (work.named named) (fun x hx => other x (List.mem_cons_of_mem _ hx)) old.2)

/-- A stable entry stays stable, as long as its task is kept. -/
theorem Stable.of_keeps (stable : Stable p defs d x)
    (keeps : x.hasTask = true → d.Keeps p.item.ns x.task d') : Stable p defs d' x := by
  cases stable with
  | finished terminal => exact .finished terminal
  | running watched found state key bound =>
    obtain ⟨found', bound'⟩ := keeps watched.2
    rw [key] at bound
    exact .running watched (found'.trans found) state key (key ▸ bound' bound)
  | bare live bare missing => exact .bare live bare missing

theorem Making.names_ne_empty (making : Making p defs x d b names d') : "" ∉ names := by
  cases making with
  | unresolved => exact List.not_mem_nil
  | made => exact fun mem => p.name_stamp_ne_empty _ _ (List.mem_singleton.1 mem).symm

/-- **A new task has a name.** -/
theorem Works.names_ne_empty {xs bs : List ItemStatus} (works : Works p defs xs d bs names d') :
    "" ∉ names := by
  induction works with
  | nil => exact List.not_mem_nil
  | cons work _ ih =>
    rw [List.mem_append, not_or]
    refine ⟨?_, ih⟩
    cases work with
    | finished | running | completed => exact List.not_mem_nil
    | lost _ _ making | bare _ _ making => exact making.names_ne_empty

theorem Making.task (making : Making p defs x d b names d') :
    b.task = x.task ∨ b.task ∈ names := by
  cases making with
  | unresolved => exact .inl rfl
  | made => exact .inr (List.mem_singleton_self _)

/-- The task of an entry after a visit is that from before, or new. -/
theorem Work.task (work : Work p defs x d b names d') (task : b.hasTask = true) :
    (x.hasTask = true ∧ b.task = x.task) ∨ b.task ∈ names := by
  cases work with
  | finished | running | completed => exact .inl ⟨task, rfl⟩
  | lost _ _ making =>
    refine making.task.imp_left fun same => ?_
    exact absurd same (ItemStatus.hasTask_iff.1 task)
  | bare _ _ making =>
    refine making.task.imp_left fun same => ?_
    exact ⟨by rwa [ItemStatus.hasTask, same] at task, same⟩

/-- **Visits leave their entries stable**, if the entries name different tasks and no name
repeats. -/
theorem Works.stable {xs bs : List ItemStatus} (works : Works p defs xs d bs names d')
    (named : d.Named known) (distinct : Distinct xs known) (fresh : (known ++ names).Nodup)
    (pending : ∀ x ∈ xs, x.hasTask = false → x.state = .pending) :
    ∀ b ∈ bs, Stable p defs d' b := by
  induction works generalizing known with
  | nil => exact fun b hb => absurd hb List.not_mem_nil
  | @cons x b xs bs names more d d₁ d₂ work works ih =>
    have after := work.named named
    rw [← List.append_assoc] at fresh
    have apart := (List.nodup_append.1 fresh).2.2
    have rest : Distinct xs (known ++ names) :=
      ⟨(List.pairwise_cons.1 distinct.apart).2, fun y hy task =>
        List.mem_append_left _ (distinct.known y (List.mem_cons_of_mem _ hy) task)⟩
    intro y hy
    obtain rfl | hy := List.mem_cons.1 hy
    · refine (work.stable named (pending x List.mem_cons_self)).of_keeps fun task => ?_
      -- the later entries have other tasks, and so have the new ones
      obtain ⟨old, same⟩ | new := work.task task
      · rw [same]
        refine works.keeps after (fun z hz e => ?_) fun mem => ?_
        · exact (List.pairwise_cons.1 distinct.apart).1 z hz old e.symm
        · exact apart _ (List.mem_append_left _ (distinct.known x List.mem_cons_self old)) _ mem rfl
      · refine works.keeps after (fun z hz e => ?_) fun mem => ?_
        · have mem := distinct.known z (List.mem_cons_of_mem _ hz)
            (by rwa [ItemStatus.hasTask, e])
          exact (List.nodup_append.1 (List.nodup_append.1 fresh).1).2.2 _ mem _ new e
        · exact apart _ (List.mem_append_right _ new) _ mem rfl
    · exact ih after rest fresh (fun z hz => pending z (List.mem_cons_of_mem _ hz)) y hy

/-- **Visits leave stable entries as they are**, and the desk too. -/
theorem Works.of_stable {xs bs : List ItemStatus} (works : Works p defs xs d bs names d')
    (stable : ∀ x ∈ xs, Stable p defs d x) : bs = xs ∧ names = [] ∧ d' = d := by
  induction works with
  | nil => exact ⟨rfl, rfl, rfl⟩
  | cons work works ih =>
    obtain ⟨rfl, rfl, rfl⟩ := work.of_stable (stable _ List.mem_cons_self)
    obtain ⟨rfl, rfl, rfl⟩ := ih fun x hx => stable x (List.mem_cons_of_mem _ hx)
    exact ⟨rfl, rfl, rfl⟩

/-! ## Two passes do the work of one -/

theorem Works.append {xs ys bs cs : List ItemStatus} {more : List String} {d'' : Desk}
    (works : Works p defs xs d bs names d') (rest : Works p defs ys d' cs more d'') :
    Works p defs (xs ++ ys) d (bs ++ cs) (names ++ more) d'' := by
  induction works with
  | nil => exact rest
  | cons work _ ih =>
    rw [List.append_assoc]
    exact .cons work (ih rest)

theorem Works.split {xs ys outs : List ItemStatus}
    (works : Works p defs (xs ++ ys) d outs names d') :
    ∃ bs cs early late d₁, outs = bs ++ cs ∧ names = early ++ late ∧
      Works p defs xs d bs early d₁ ∧ Works p defs ys d₁ cs late d' := by
  induction xs generalizing d outs names with
  | nil => exact ⟨[], outs, [], names, d, rfl, rfl, .nil, works⟩
  | cons x xs ih =>
    cases works with
    | cons work works =>
      obtain ⟨bs, cs, early, late, d₁, rfl, rfl, first, second⟩ := ih works
      exact ⟨_ :: bs, cs, _, late, d₁, rfl, (List.append_assoc _ _ _).symm, .cons work first,
        second⟩

/-- **Visits that were cut short and are made again** do the work of visits that were not.  The
entry at which they were cut may have lost its task already. -/
theorem Works.resume {before after bs outs : List ItemStatus} {more : List String}
    {d₁ d₂ : Desk} (first : Works p defs before d bs names d₁)
    (cut : d₂ = d₁ ∨ (x.IsWatched ∧ d₁.tasks.find? ⟨p.item.ns, x.task⟩ = none ∧
      d₂ = d₁.vanish p.item.ns x.task))
    (stable : ∀ b ∈ bs, Stable p defs d₂ b)
    (second : Works p defs (bs ++ x :: after) d₂ outs more d') :
    Works p defs (before ++ x :: after) d outs (names ++ more) d' := by
  obtain ⟨bs', cs, early, late, d₃, rfl, rfl, again, rest⟩ := second.split
  obtain ⟨rfl, rfl, rfl⟩ := again.of_stable stable
  refine first.append ?_
  rw [List.nil_append]
  cases rest with
  | cons work works =>
    obtain rfl | ⟨watched, missing, rfl⟩ := cut
    · exact .cons work works
    · exact .cons (work.of_vanished watched missing) works

end DeployChecks
