import DeployChecks.Proofs.Host.Watch

/-!
# Proofs/Host/Bindings — bound spans follow the entries

A span is bound for a task that is being worked on, and for nothing else.  Entries and spans change
at different moments: a pass that is cut short has given up the span of a lost task, but not its
entry, and after a restart no span is bound at all.  So the invariant between passes goes one way
only, from spans to entries (`Followed.justified`); after a complete pass it goes both ways.  Main
definitions: `Rebinding` for one visit, `Followed` for the pass; main statement:
`bindings_follow_entries`.
-/

namespace DeployChecks

/-- **What a visit does to the bound keys**: it unbinds some, which are the entry's own, and binds
the key of the entry that it leaves. -/
structure Rebinding {ε : Type} (ns : String) (x b : ItemStatus) (cut : List SpanKey)
    (s s' : Scene Memory (Watch ε)) : Prop where
  /-- The keys that it unbinds. -/
  unbound : unboundKeys s'.calls = unboundKeys s.calls ++ cut
  /-- They are the entry's own. -/
  own : ∀ k ∈ cut, x.IsWatched ∧ k = .forTask ns x.task
  /-- The keys that are bound afterwards. -/
  bound : ∀ k, s'.IsBound k ↔ (b.IsWatched ∧ k = .forTask ns b.task) ∨ (k ∉ cut ∧ s.IsBound k)
  /-- What is watched stays watched, or is unbound. -/
  kept : x.IsWatched → (b.IsWatched ∧ b.task = x.task) ∨ .forTask ns x.task ∈ cut
  /-- What is watched afterwards was watched before, or is new. -/
  origin : b.IsWatched → (x.IsWatched ∧ b.task = x.task ∧ cut = []) ∨
    createdNames s'.calls = createdNames s.calls ++ [b.task]

/-- What is not watched and stays as it is, binds nothing. -/
theorem Rebinding.of_unwatched {ε : Type} {s s' : Scene Memory (Watch ε)} {ns : String}
    {x : ItemStatus} (unwatched : ¬ x.IsWatched)
    (unbound : unboundKeys s'.calls = unboundKeys s.calls)
    (same : ∀ k, s'.IsBound k ↔ s.IsBound k) :
    Rebinding ns x x [] s s' := by
  refine ⟨?_, fun k mem => absurd mem List.not_mem_nil, fun k => ?_,
    fun watched => absurd watched unwatched, fun watched => absurd watched unwatched⟩
  · rw [unbound, List.append_nil]
  · rw [same]
    simp [unwatched]

namespace Engine

variable {ε : Type} {c : Chance} {emit : PhaseEvent → Act ε (Except EventError Unit)} {p : Pass}
  {prior done rest : List ItemStatus} {s s' : Scene Memory (Watch ε)}

/-! ## One visit -/

/-- A creation binds the key of the new task. -/
theorem Creation.rebinding {status : ItemStatus} {out : Outcome}
    (creation : Creation (Watch.engine c emit) p status s (.ok out) s')
    (live : status.isTerminal = false) (bare : status.hasTask = false) :
    Rebinding p.item.ns status out.status [] s s' := by
  have unwatched := ItemStatus.not_isWatched_of_bare bare
  cases creation with
  | unresolved resolved =>
    exact .of_unwatched unwatched (Scene.unboundKeys_resolve resolved)
      (Scene.isBound_of_observer (s.observer_ask _ resolved))
  | refused resolved drawn put =>
    obtain ⟨observer, unbound⟩ := Scene.quiet_stamped resolved drawn put
    refine .of_unwatched unwatched ?_ fun k =>
      (Scene.isBound_announce _ k _ _ _ _).trans (Scene.isBound_of_observer observer k)
    rw [Scene.unboundKeys_refused, unbound]
  | @created s₁ s₂ s₃ d draw t resolved drawn put =>
    obtain ⟨observer, unbound⟩ := Scene.quiet_stamped resolved drawn put
    obtain ⟨rfl, -⟩ := Scene.created_of_put resolved drawn put
    have watched :
        (s₃.welcome (Watch.engine c emit) p (p.stamp d draw) status).1.status.IsWatched :=
      ⟨live, ItemStatus.hasTask_iff.2 (p.name_stamp_ne_empty d draw)⟩
    refine ⟨?_, fun k mem => absurd mem List.not_mem_nil, fun k => ?_,
      fun before => absurd before unwatched, fun _ => .inr ?_⟩
    · rw [Scene.unboundKeys_welcome, unbound, List.append_nil]
    · rw [Scene.isBound_welcome, Scene.isBound_of_observer observer]
      simp only [watched, true_and, List.not_mem_nil, not_false_eq_true]
      rfl
    · rw [Scene.createdNames_welcome, Scene.createdNames_stamped resolved drawn put]
      rfl

/-- **A visit binds and unbinds** as it should. -/
theorem Course.rebinding {status : ItemStatus} {out : Outcome}
    (course : Course (Watch.engine c emit) p status s (.ok out) s')
    (keyed : s.backend.store.IsKeyed) :
    ∃ cut, Rebinding p.item.ns status out.status cut s s' := by
  cases course with
  | finished terminal =>
    exact ⟨[], .of_unwatched (ItemStatus.not_isWatched_of_terminal terminal) rfl fun _ => Iff.rfl⟩
  | @read s₁ t live task fetched =>
    have watched : status.IsWatched := ⟨live, task⟩
    have key := Task.spanKey_of_key (keyed _ t (Scene.found_of_fetch fetched))
    have same := Scene.isBound_of_observer (s.observer_ask _ fetched)
    have completes := ItemStatus.completes_of_live live t.state
    cases terminal : t.state.isTerminal with
    | true =>
      have unwatched : ¬ (s₁.refresh (Watch.engine c emit) p t status).1.status.IsWatched :=
        ItemStatus.not_isWatched_of_terminal (by rwa [ItemStatus.isTerminal, Scene.state_refresh])
      refine ⟨[.forTask p.item.ns status.task], ?_, ?_, fun k => ?_, fun _ => .inr (by simp),
        fun watched => absurd watched unwatched⟩
      · rw [Scene.unboundKeys_refresh, Scene.unboundKeys_fetch fetched, completes, terminal,
          if_pos rfl, key]
      · intro k mem
        exact ⟨watched, List.mem_singleton.1 mem⟩
      · rw [Scene.isBound_refresh, same, completes, terminal, if_pos rfl, key]
        simp [unwatched]
    | false =>
      have stays : (s₁.refresh (Watch.engine c emit) p t status).1.status.IsWatched :=
        ⟨by rwa [ItemStatus.isTerminal, Scene.state_refresh],
          by rwa [ItemStatus.hasTask, Scene.task_refresh]⟩
      have sameTask := Scene.task_refresh (s := s₁) (e := Watch.engine c emit) (p := p) t status
      refine ⟨[], ?_, fun k mem => absurd mem List.not_mem_nil, fun k => ?_,
        fun _ => .inl ⟨stays, sameTask⟩, fun _ => .inl ⟨watched, sameTask, rfl⟩⟩
      · rw [Scene.unboundKeys_refresh, Scene.unboundKeys_fetch fetched, completes, terminal]
        rfl
      · rw [Scene.isBound_refresh, same, completes, terminal, if_neg Bool.false_ne_true, key,
          sameTask]
        simp [stays]
  | @lost s₁ s₂ err _ live task fetched _ creation =>
    have same := Scene.isBound_of_observer (s.observer_ask _ fetched)
    have created := creation.rebinding rfl rfl
    refine ⟨[.forTask p.item.ns status.task], ?_, ?_, fun k => ?_, fun _ => .inr (by simp),
      fun watched => .inr ?_⟩
    · rw [created.unbound, Scene.unboundKeys_lose, Scene.unboundKeys_fetch fetched, List.append_nil]
    · intro k mem
      exact ⟨⟨live, task⟩, List.mem_singleton.1 mem⟩
    · rw [created.bound, Scene.isBound_lose, same]
      simp
    · obtain ⟨⟨-, task⟩, -⟩ | names := created.origin watched
      · cases task
      · rw [names, Scene.createdNames_lose, Scene.createdNames_fetch fetched]
  | bare live bare creation => exact ⟨[], creation.rebinding live bare⟩

/-- A turn binds and unbinds as the visit in it. -/
theorem Turn.rebinding {definition : String} {out : Outcome}
    (turn : Turn (Watch.engine c emit) p prior definition s (.ok out) s')
    (keyed : s.backend.store.IsKeyed) :
    ∃ cut, Rebinding p.item.ns (statusOrFresh definition prior) out.status cut s s' := by
  cases turn with
  | done look course =>
    obtain rfl := congrArg Prod.snd look
    obtain ⟨cut, rebinding⟩ := course.rebinding keyed
    refine ⟨cut, ?_, rebinding.own, fun k => ?_, rebinding.kept, fun watched => ?_⟩
    · rw [Scene.unboundKeys_announceChange, rebinding.unbound]
      rfl
    · rw [Scene.isBound_announceChange, rebinding.bound]
      rfl
    · rw [Scene.createdNames_announceChange]
      exact rebinding.origin watched

/-! ## A turn that stops the pass -/

/-- **A visit that stops the pass** unbinds at most the entry's own key, and binds nothing. -/
theorem Course.unbinding {status : ItemStatus} {i : Interruption}
    (course : Course (Watch.engine c emit) p status s (.error i) s') :
    ∃ cut, unboundKeys s'.calls = unboundKeys s.calls ++ cut ∧
      (∀ k ∈ cut, status.IsWatched ∧ k = .forTask p.item.ns status.task) ∧
      ∀ k, s'.IsBound k ↔ k ∉ cut ∧ s.IsBound k := by
  have nothing : s'.observer = s.observer → unboundKeys s'.calls = unboundKeys s.calls →
      ∃ cut, unboundKeys s'.calls = unboundKeys s.calls ++ cut ∧
        (∀ k ∈ cut, status.IsWatched ∧ k = .forTask p.item.ns status.task) ∧
        ∀ k, s'.IsBound k ↔ k ∉ cut ∧ s.IsBound k := fun observer unbound =>
    ⟨[], by rw [unbound, List.append_nil], fun k mem => absurd mem List.not_mem_nil, fun k => by
      simpa using Scene.isBound_of_observer observer k⟩
  cases course with
  | unanswered _ _ fetched =>
    exact nothing (s.observer_ask _ fetched) (Scene.unboundKeys_fetch fetched)
  | unread _ _ fetched =>
    exact nothing (s.observer_ask _ fetched) (Scene.unboundKeys_fetch fetched)
  | lost live task fetched _ creation =>
    obtain ⟨observer, unbound⟩ := creation.quiet_of_error
    refine ⟨[.forTask p.item.ns status.task], ?_, ?_, fun k => ?_⟩
    · rw [unbound, Scene.unboundKeys_lose, Scene.unboundKeys_fetch fetched]
    · intro k mem
      exact ⟨⟨live, task⟩, List.mem_singleton.1 mem⟩
    · rw [Scene.isBound_of_observer observer, Scene.isBound_lose,
        Scene.isBound_of_observer (s.observer_ask _ fetched)]
      simp
  | bare _ _ creation =>
    obtain ⟨observer, unbound⟩ := creation.quiet_of_error
    exact nothing observer unbound

theorem Turn.unbinding {definition : String} {i : Interruption}
    (turn : Turn (Watch.engine c emit) p prior definition s (.error i) s') :
    ∃ cut, unboundKeys s'.calls = unboundKeys s.calls ++ cut ∧
      (∀ k ∈ cut, (statusOrFresh definition prior).IsWatched ∧
        k = .forTask p.item.ns (statusOrFresh definition prior).task) ∧
      ∀ k, s'.IsBound k ↔ k ∉ cut ∧ s.IsBound k := by
  cases turn with
  | stopped look =>
    obtain rfl := congrArg Prod.snd look
    refine ⟨[], by rw [List.append_nil]; rfl, fun k mem => absurd mem List.not_mem_nil, fun k => ?_⟩
    simp only [List.not_mem_nil, not_false_eq_true, true_and]
    rfl
  | interrupted look course =>
    obtain rfl := congrArg Prod.snd look
    exact course.unbinding

end Engine

/-! ## Whole passes -/

/-- **The spans follow the entries** of a pass, those that are done and those still untouched. -/
structure Followed {ε : Type} (ns : String) (names : List String) (before : Nat)
    (done rest : List ItemStatus) (s : Scene Memory (Watch ε)) : Prop where
  /-- What is bound is the key of an entry that is watched. -/
  justified : ∀ k, s.IsBound k → ∃ x ∈ done ++ rest, x.IsWatched ∧ k = .forTask ns x.task
  /-- The keys of the entries that are done and watched are bound. -/
  complete : ∀ x ∈ done, x.IsWatched → s.IsBound (.forTask ns x.task)
  /-- The pass has only added to the keys that were unbound before. -/
  began : before ≤ (unboundKeys s.calls).length
  /-- What it unbound stays so: it is the key of a known task that no untouched entry has. -/
  released : ∀ k ∈ (unboundKeys s.calls).drop before, ¬ s.IsBound k ∧
    ∃ name ∈ names, k = .forTask ns name ∧ ∀ x ∈ rest, x.task ≠ name

namespace Followed

variable {ε : Type} {ns : String} {names names' : List String} {before : Nat}
  {done rest : List ItemStatus} {x b : ItemStatus} {cut : List SpanKey}
  {s s' : Scene Memory (Watch ε)}

/-- The other entries have other tasks. -/
theorem others_of_distinct (distinct : Distinct (done ++ x :: rest) names)
    (task : x.hasTask = true) : ∀ y ∈ done ++ rest, y.task ≠ x.task := fun y hy same =>
  (Distinct.pairwise_middle.1 distinct.apart).1 y hy task same.symm

/-- **A visit keeps it up.** -/
theorem next (followed : Followed ns names before done (x :: rest) s)
    (rebinding : Rebinding ns x b cut s s') (distinct : Distinct (done ++ x :: rest) names)
    (sub : names ⊆ names')
    (origin : b.IsWatched → (x.IsWatched ∧ b.task = x.task ∧ cut = []) ∨ b.task ∉ names) :
    Followed ns names' before (done ++ [b]) rest s' := by
  refine ⟨fun k bound => ?_, fun y hy watched => ?_, ?_, fun k mem => ?_⟩
  · obtain ⟨watched, rfl⟩ | ⟨kept, bound⟩ := (rebinding.bound k).1 bound
    · exact ⟨b, by simp, watched, rfl⟩
    obtain ⟨y, hy, watched, rfl⟩ := followed.justified k bound
    rw [List.mem_append, List.mem_cons] at hy
    obtain hy | rfl | hy := hy
    · exact ⟨y, by simp [hy], watched, rfl⟩
    · obtain ⟨after, same⟩ | cut := rebinding.kept watched
      · exact ⟨b, by simp, after, by rw [same]⟩
      · exact absurd cut kept
    · exact ⟨y, by simp [hy], watched, rfl⟩
  · rw [List.mem_append, List.mem_singleton] at hy
    obtain hy | rfl := hy
    · refine (rebinding.bound _).2 (.inr ⟨fun mem => ?_, followed.complete y hy watched⟩)
      obtain ⟨⟨-, task⟩, same⟩ := rebinding.own _ mem
      exact others_of_distinct distinct task y (List.mem_append_left _ hy)
        (SpanKey.forTask_inj.1 same)
    · exact (rebinding.bound _).2 (.inl ⟨watched, rfl⟩)
  · rw [rebinding.unbound, List.length_append]
    exact Nat.le_add_right_of_le followed.began
  rw [rebinding.unbound, List.drop_append_of_le_length followed.began, List.mem_append] at mem
  obtain mem | mem := mem
  · obtain ⟨unbound, name, known, rfl, apart⟩ := followed.released k mem
    refine ⟨fun bound => ?_, name, sub known, rfl, fun y hy => apart y (List.mem_cons_of_mem _ hy)⟩
    obtain ⟨watched, same⟩ | ⟨-, bound⟩ := (rebinding.bound _).1 bound
    · obtain rfl := SpanKey.forTask_inj.1 same
      obtain ⟨-, task, -⟩ | new := origin watched
      · exact apart x List.mem_cons_self task.symm
      · exact new known
    · exact unbound bound
  · obtain ⟨⟨live, task⟩, rfl⟩ := rebinding.own k mem
    have known := distinct.known x (by simp) task
    refine ⟨fun bound => ?_, x.task, sub known, rfl, fun y hy =>
      others_of_distinct distinct task y (List.mem_append_right _ hy)⟩
    obtain ⟨watched, same⟩ | ⟨kept, -⟩ := (rebinding.bound _).1 bound
    · obtain ⟨-, -, rfl⟩ | new := origin watched
      · cases mem
      · rw [← SpanKey.forTask_inj.1 same] at new
        exact new known
    · exact kept mem

/-- **A visit that stops the pass** unbinds what it unbinds for good. -/
theorem stop (followed : Followed ns names before done (x :: rest) s)
    (distinct : Distinct (done ++ x :: rest) names)
    (unbound : unboundKeys s'.calls = unboundKeys s.calls ++ cut)
    (own : ∀ k ∈ cut, x.IsWatched ∧ k = .forTask ns x.task)
    (bound : ∀ k, s'.IsBound k ↔ k ∉ cut ∧ s.IsBound k) :
    (∀ k, s'.IsBound k → ∃ y ∈ done ++ x :: rest, y.IsWatched ∧ k = .forTask ns y.task) ∧
      (∀ y ∈ done, y.IsWatched → s'.IsBound (.forTask ns y.task)) ∧
      ∀ k ∈ (unboundKeys s'.calls).drop before, ¬ s'.IsBound k := by
  refine ⟨fun k hk => followed.justified k ((bound k).1 hk).2, fun y hy watched => ?_,
    fun k mem => ?_⟩
  · refine (bound _).2 ⟨fun mem => ?_, followed.complete y hy watched⟩
    obtain ⟨⟨-, task⟩, same⟩ := own _ mem
    exact others_of_distinct distinct task y (List.mem_append_left _ hy)
      (SpanKey.forTask_inj.1 same)
  · rw [unbound, List.drop_append_of_le_length followed.began, List.mem_append] at mem
    intro hk
    obtain mem | mem := mem
    · exact (followed.released k mem).1 ((bound k).1 hk).2
    · exact ((bound k).1 hk).1 mem

end Followed

namespace Engine

variable {ε : Type} {c : Chance} {emit : PhaseEvent → Act ε (Except EventError Unit)} {p : Pass}
  {prior done rest : List ItemStatus} {s s' : Scene Memory (Watch ε)}

/-- **The spans follow the entries through a pass**, as long as no name repeats. -/
def followedEntries (c : Chance) (emit : PhaseEvent → Act ε (Except EventError Unit)) (p : Pass)
    (prior : List ItemStatus) (old : List String) (before : Nat) :
    PassInvariant (Watch.engine c emit) p prior where
  Good calls := (old ++ createdNames calls).Nodup
  Holds done rest s := s.backend.store.IsKeyed ∧
    Distinct (done ++ rest) (old ++ createdNames s.calls) ∧
    Followed p.item.ns (old ++ createdNames s.calls) before done rest s
  Left done rest s := s.backend.store.IsKeyed ∧
    (∀ k, s.IsBound k → ∃ x ∈ done ++ rest, x.IsWatched ∧ k = .forTask p.item.ns x.task) ∧
    (∀ x ∈ done, x.IsWatched → s.IsBound (.forTask p.item.ns x.task)) ∧
    ∀ k ∈ (unboundKeys s.calls).drop before, ¬ s.IsBound k
  good_of_earlier := nodup_names_of_earlier
  step := by
    rintro done rest definition s s' out fresh ⟨keyed, distinct, followed⟩ turn
    obtain ⟨cut, rebinding⟩ := turn.rebinding keyed
    have sub : createdNames s.calls ⊆ createdNames s'.calls := createdNames_subset turn.calls_grow
    refine ⟨turn.isKeyed keyed, ?_, followed.next rebinding distinct ?_ fun watched => ?_⟩
    · rw [List.append_assoc]
      exact turn.distinct fresh distinct
    · exact List.append_subset.2 ⟨List.subset_append_left _ _,
        List.Subset.trans sub (List.subset_append_right _ _)⟩
    · refine (rebinding.origin watched).imp_right fun created => ?_
      rw [created, ← List.append_assoc] at fresh
      exact fun mem => (List.nodup_append.1 fresh).2.2 _ mem _ (List.mem_singleton_self _) rfl
  finish := by
    rintro done s ⟨keyed, -, followed⟩
    exact ⟨keyed, followed.justified, followed.complete, fun k mem => (followed.released k mem).1⟩
  stop := by
    rintro done rest definition s s' i - ⟨keyed, distinct, followed⟩ turn
    obtain ⟨cut, unbound, own, bound⟩ := turn.unbinding
    exact ⟨turn.isKeyed keyed, followed.stop distinct unbound own bound⟩

end Engine

/-! ## A whole run -/

namespace Host

variable {ε : Type}

/-- The span of a key is bound. -/
def IsBound (h : Host (Watch ε)) (k : SpanKey) : Prop := h.watcher.spans.isBound k = true

variable {emit : PhaseEvent → Act ε (Except EventError Unit)} {group : CheckGroup}
  {h : Host (Watch ε)} {old : List String}

/-- **The spans are justified** by the entries that the next pass starts from. -/
structure Justified (u : Setup (Watch ε)) (h : Host (Watch ε)) : Prop where
  /-- Every task stands under its own key. -/
  keyed : h.store.IsKeyed
  /-- What is bound is the key of an entry that is watched. -/
  bound : ∀ k, h.IsBound k → ∃ x ∈ h.entries u, x.IsWatched ∧ k = .forTask h.item.ns x.task

/-- What a pass leaves of the spans. -/
theorem followed_pass (distinct : (h.declared (.watched emit group)).Nodup)
    (justified : h.Justified (.watched emit group)) {context : Trace.Context} {chance : Chance}
    (fresh : (old ++ createdNames (h.pass (.watched emit group) context chance).2.calls).Nodup)
    (entries : Distinct (h.statuses (.watched emit group)) (old ++ createdNames h.calls)) :
    ∃ done rest, keptStatuses (h.pass (.watched emit group) context chance).1 = done ++ rest ∧
      (∀ r, (h.pass (.watched emit group) context chance).1 = .ok r → rest = []) ∧
      (Engine.followedEntries chance emit (h.passOf (.watched emit group) context)
        (h.statuses (.watched emit group)) old (unboundKeys h.calls).length).Left done rest
          (h.sceneAfter (.watched emit group) context chance) :=
  (Engine.followedEntries chance emit (h.passOf (.watched emit group) context)
    (h.statuses (.watched emit group)) old (unboundKeys h.calls).length).left_ending
      (h.pass_ending (.watched emit group) context chance) fresh
      ⟨justified.keyed, entries.statusOrFresh distinct, justified.bound,
        fun x hx => absurd hx List.not_mem_nil, Nat.le_refl _, fun k mem => by
          rw [show unboundKeys h.world.scene.calls = unboundKeys h.calls from rfl,
            List.drop_length] at mem
          exact absurd mem List.not_mem_nil⟩

theorem justified_step (distinct : (h.declared (.watched emit group)).Nodup) (m : Move)
    (justified : h.Justified (.watched emit group))
    (fresh : (old ++ createdNames (h.step (.watched emit group) m).calls).Nodup)
    (entries : Distinct (h.statuses (.watched emit group)) (old ++ createdNames h.calls)) :
    (h.step (.watched emit group) m).Justified (.watched emit group) := by
  cases m with
  | pass context chance =>
    obtain ⟨done, rest, kept, -, keyed, bound, -⟩ :=
      followed_pass distinct justified fresh entries
    refine ⟨keyed, fun k hk => ?_⟩
    rw [ns_step, step, entries_pass distinct, kept]
    exact bound k hk
  | report key state message now =>
    exact ⟨justified.keyed.report key state message now, justified.bound⟩
  | remove key => exact ⟨justified.keyed.remove key, justified.bound⟩
  | define d => exact ⟨justified.keyed, justified.bound⟩
  | undefine key => exact ⟨justified.keyed, justified.bound⟩
  | restart =>
    exact ⟨justified.keyed, fun k hk => absurd hk (SpanRegistry.isBound_of_isEmpty _ k rfl)⟩

theorem justified_run (distinct : (h.declared (.watched emit group)).Nodup) (moves : List Move)
    (justified : h.Justified (.watched emit group))
    (fresh : (old ++ createdNames (h.run (.watched emit group) moves).calls).Nodup)
    (entries : Distinct (h.statuses (.watched emit group)) (old ++ createdNames h.calls)) :
    (h.run (.watched emit group) moves).Justified (.watched emit group) := by
  induction moves generalizing h with
  | nil => exact justified
  | cons m moves ih =>
    have soon := Engine.nodup_names_of_earlier
      (calls_grow_run (.watched emit group) (h.step (.watched emit group) m) moves) fresh
    exact ih (by rwa [declared_step]) (justified_step distinct m justified soon entries) fresh
      (distinct_run distinct [m] soon entries)

/-- **The spans follow the entries.**  A host starts without bound spans, with any entries and any
tasks; the names of the tasks that its entries name and of those that are created never repeat.
After whatever moves, every key that is bound is that of a stored entry with a task that is not
finished, and no key of a finished entry is bound.  Directly after a complete pass the key of every
such entry is bound; and after every pass, no key that the pass has unbound is bound. -/
theorem bindings_follow_entries (emit : PhaseEvent → Act ε (Except EventError Unit))
    (group : CheckGroup) (item : PhaseItem) (store : TaskStore) (registry : DefinitionRegistry)
    (watcher : Watch ε) (moves : List Move) (keyed : store.IsKeyed)
    (unbound : watcher.spans.isEmpty = true) (distinct : (item.declared group).Nodup)
    (fresh : (namedTasks (item.statuses group) ++ createdNames
      ((⟨item, store, registry, watcher, []⟩ : Host (Watch ε)).run (.watched emit group)
        moves).calls).Nodup) :
    let u := Setup.watched emit group
    let first : Host (Watch ε) := ⟨item, store, registry, watcher, []⟩
    let h := first.run u moves
    (∀ k, h.IsBound k → ∃ x ∈ h.statuses u, x.IsWatched ∧ k = .forTask item.ns x.task) ∧
      (∀ x ∈ h.statuses u, x.isTerminal = true → x.hasTask = true →
        ¬ h.IsBound (.forTask item.ns x.task)) ∧
      ∀ earlier context chance, moves = earlier ++ [.pass context chance] →
        (∀ r, ((first.run u earlier).pass u context chance).1 = .ok r →
          ∀ x ∈ h.statuses u, x.IsWatched → h.IsBound (.forTask item.ns x.task)) ∧
        ∀ k ∈ (unboundKeys h.calls).drop (unboundKeys (first.run u earlier).calls).length,
          ¬ h.IsBound k := by
  intro u first h
  have names : (first.declared (.watched emit group)).Nodup := distinct
  have start : Distinct (first.statuses u)
      (namedTasks (item.statuses group) ++ createdNames first.calls) :=
    (Distinct.of_nodup (List.nodup_append.1 fresh).1).grow (List.subset_append_left _ _)
  have begin : first.Justified u :=
    ⟨keyed, fun k hk => absurd hk (SpanRegistry.isBound_of_isEmpty _ k unbound)⟩
  have apart := distinct_run names moves fresh start
  have bound : ∀ k, h.IsBound k →
      ∃ x ∈ h.statuses u, x.IsWatched ∧ k = .forTask item.ns x.task := by
    intro k hk
    obtain ⟨x, hx, watched, key⟩ := (justified_run names moves begin fresh start).bound k hk
    obtain ⟨d, -, rfl⟩ := List.mem_map.1 hx
    exact ⟨_, statusOrFresh_mem watched.2, watched, by rw [key, ns_run]⟩
  refine ⟨bound, fun x hx terminal task hk => ?_, ?_⟩
  · obtain ⟨y, hy, watched, same⟩ := bound _ hk
    have alone := apart.filter_task hy watched.2
    have mem : x ∈ (h.statuses u).filter (·.task = y.task) :=
      List.mem_filter.2 ⟨hx, decide_eq_true (SpanKey.forTask_inj.1 same)⟩
    rw [alone] at mem
    obtain rfl := List.mem_singleton.1 mem
    exact ItemStatus.not_isWatched_of_terminal terminal watched
  rintro earlier context chance rfl
  have last : h = ((first.run u earlier).pass u context chance).2 := run_append _ _ _ _
  rw [show (first.run u (earlier ++ [.pass context chance])).calls
    = ((first.run u earlier).pass u context chance).2.calls from congrArg Host.calls last] at fresh
  have soon := Engine.nodup_names_of_earlier
    ((first.run u earlier).calls_grow_step u (.pass context chance)) fresh
  obtain ⟨done, rest, kept, complete, -, -, done_bound, released⟩ := followed_pass
    (by rw [declared_run]; exact distinct) (justified_run names earlier begin soon start) fresh
    (distinct_run names earlier soon start)
  rw [last]
  refine ⟨fun r ok x hx watched => ?_, released⟩
  rw [statuses_pass, kept, complete r ok, List.append_nil] at hx
  have hk := done_bound x hx watched
  rwa [show (Host.passOf u (first.run u earlier) context).item.ns = item.ns from ns_run _ _ _] at hk

/-- Of two tasks one is lost after a pass that failed, and the other one succeeds; the next pass
gives up the spans of both and binds that of the replacement. -/
theorem bindings_follow_entries_after_a_loss :
    let first : Host (Watch Unit) :=
      ⟨Sample.item ["smoke", "load"], .empty, .empty "shared", Sample.watch, []⟩
    let lost := first.run Sample.watched Sample.untilLost
    let h := first.run Sample.watched Sample.untilReplaced
    let given := (unboundKeys h.calls).drop (unboundKeys lost.calls).length
    ((∃ r, (lost.pass Sample.watched .empty Sample.redrawn).1 = .ok r) ∧
      given = [.forTask "prod" "pre-smoke-10003", .forTask "prod" "pre-load-10012"] ∧
      h.IsBound (.forTask "prod" "pre-smoke-10505")) ∧
      (∀ k, h.IsBound k →
        ∃ x ∈ h.statuses Sample.watched, x.IsWatched ∧ k = .forTask "prod" x.task) ∧
      (∀ x ∈ h.statuses Sample.watched, x.isTerminal = true → x.hasTask = true →
        ¬ h.IsBound (.forTask "prod" x.task)) ∧
      (∀ x ∈ h.statuses Sample.watched, x.IsWatched → h.IsBound (.forTask "prod" x.task)) ∧
      ∀ k ∈ given, ¬ h.IsBound k := by
  intro first lost h given
  have names : createdNames h.calls
      = ["pre-smoke-10003", "pre-load-10012", "pre-smoke-10505"] := by decide +kernel
  have keys : given = [.forTask "prod" "pre-smoke-10003", .forTask "prod" "pre-load-10012"] := by
    decide +kernel
  have bound : h.watcher.spans.isBound (.forTask "prod" "pre-smoke-10505") = true := by
    decide +kernel
  have distinct : ((Sample.item ["smoke", "load"]).declared .pre).Nodup := by decide
  have fresh : (namedTasks ((Sample.item ["smoke", "load"]).statuses .pre)
      ++ createdNames h.calls).Nodup := by
    rw [names]
    decide
  have complete : (lost.pass Sample.watched .empty Sample.redrawn).1.isOk = true := by
    decide +kernel
  obtain ⟨justified, finished, last⟩ := bindings_follow_entries _ .pre
    (Sample.item ["smoke", "load"]) .empty (.empty "shared") Sample.watch Sample.untilReplaced
    TaskStore.isKeyed_empty rfl distinct fresh
  obtain ⟨done, released⟩ := last Sample.untilLost .empty Sample.redrawn rfl
  cases result : (lost.pass Sample.watched .empty Sample.redrawn).1 with
  | error _ =>
    rw [result] at complete
    cases complete
  | ok r =>
    exact ⟨⟨⟨r, rfl⟩, keys, bound⟩, justified, finished, done r result, released⟩

end Host

end DeployChecks
