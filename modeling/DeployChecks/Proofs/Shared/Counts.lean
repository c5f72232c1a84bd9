import DeployChecks.Proofs.Shared.Stitches

/-!
# Proofs/Shared/Counts — how often the store is asked

The store counts the calls that it gets.  Where nothing goes wrong, a turn asks for the task of its
entry once, if the entry has one and is not finished, and puts one task in, if it creates one
(`Turn.counts`).  So the counts after all stitches can be told from the stitches (`Weaving.counts`).
-/

namespace DeployChecks

/-- **The tasks that the store is asked for** on behalf of an entry. -/
def ItemStatus.wanted (x : ItemStatus) : List String :=
  if x.isTerminal then [] else if x.hasTask then [x.task] else []

/-- **A store has counted** so many calls. -/
structure TaskStore.Counts (s s' : TaskStore) (gets creates : Nat) : Prop where
  /-- How often a task was asked for. -/
  gets : s'.getCalls = s.getCalls + gets
  /-- How often a task was put in. -/
  creates : s'.createCalls = s.createCalls + creates

theorem TaskStore.Counts.trans {s s' s'' : TaskStore} {gets gets' creates creates' : Nat}
    (h : s.Counts s' gets creates) (h' : s'.Counts s'' gets' creates') :
    s.Counts s'' (gets + gets') (creates + creates') :=
  ⟨by rw [h'.gets, h.gets, Nat.add_assoc], by rw [h'.creates, h.creates, Nat.add_assoc]⟩

theorem TaskStore.counts_create (s : TaskStore) (t : Task) : s.Counts (s.create t).2 0 1 := by
  unfold create
  dsimp only
  split <;> exact ⟨rfl, rfl⟩

namespace Scene

variable {τ : Type} {c : Chance} {obs : Observer τ} {p : Pass} {s s₁ s₂ s₃ : Scene Memory τ}

theorem counts_fetch (calm : c.IsCalm) {x : ItemStatus} {answer : Option (Except StoreError Task)}
    (fetched : s.fetch (Memory.engine c obs) p x = (answer, s₁)) :
    s.backend.store.Counts s₁.backend.store 1 0 := by
  obtain rfl := congrArg Prod.snd fetched
  simp only [fetch, ask, look, sample, decide, Memory.engine, Memory.backend, Act.silent,
    calm.cancelled, calm.get, Memory.settle, Memory.next]
  exact ⟨rfl, rfl⟩

theorem counts_resolve (calm : c.IsCalm) {x : ItemStatus}
    {answer : Option (Except ResolveError TaskDefinition)}
    (resolved : s.resolve (Memory.engine c obs) p x = (answer, s₁)) :
    s₁.backend.store = s.backend.store := by
  obtain rfl := congrArg Prod.snd resolved
  simp [resolve, ask, look, sample, decide, Memory.engine, Memory.backend, calm.cancelled,
    calm.resolve, Memory.settle, Memory.next]

/-- Creating a task, from its definition to the store, puts it in once. -/
theorem counts_stamped (calm : c.IsCalm) {x : ItemStatus} {d : TaskDefinition} {draw : Nat}
    {answer : Option (Except StoreError Task)}
    (resolved : s.resolve (Memory.engine c obs) p x = (some (.ok d), s₁))
    (drawn : s₁.sample (Memory.engine c obs).backend.draw = (draw, s₂))
    (put : s₂.put (Memory.engine c obs) (p.stamp d draw) = (answer, s₃)) :
    s.backend.store.Counts s₃.backend.store 0 1 := by
  have stored : s₃.backend.store = (s₂.backend.store.create (p.stamp d draw)).2 := by
    obtain rfl := congrArg Prod.snd put
    simp [Scene.put, ask, look, sample, decide, Memory.engine, Memory.backend, Act.silent,
      calm.cancelled, calm.create, Memory.settle, Memory.next]
  obtain rfl := congrArg Prod.snd drawn
  rw [stored, ← counts_resolve calm resolved]
  exact TaskStore.counts_create _ _

end Scene

namespace Engine

variable {τ : Type} {c : Chance} {obs : Observer τ} {p : Pass} {x : ItemStatus} {o : Outcome}
  {s s' : Scene Memory τ}

theorem Creation.counts (calm : c.IsCalm)
    (creation : Creation (Memory.engine c obs) p x s (.ok o) s') (accepted : ¬ o.IsRefused) :
    s.backend.store.Counts s'.backend.store 0 o.newNames.length := by
  cases creation with
  | unresolved resolved =>
    rw [Scene.counts_resolve calm resolved]
    exact ⟨rfl, rfl⟩
  | refused => exact absurd ⟨_, _, rfl⟩ accepted
  | created resolved drawn put =>
    have counts := Scene.counts_stamped calm resolved drawn put
    exact ⟨counts.gets, counts.creates⟩

theorem Course.counts (calm : c.IsCalm)
    (course : Course (Memory.engine c obs) p x s (.ok o) s') (accepted : ¬ o.IsRefused) :
    s.backend.store.Counts s'.backend.store x.wanted.length o.newNames.length := by
  cases course with
  | finished terminal =>
    rw [ItemStatus.wanted, if_pos terminal]
    exact ⟨rfl, rfl⟩
  | read live task fetched =>
    have counts := Scene.counts_fetch calm fetched
    rw [ItemStatus.wanted, if_neg (ne_true_of_eq_false live), if_pos task]
    unfold Scene.refresh
    split <;> exact ⟨counts.gets, counts.creates⟩
  | lost live task fetched _ creation =>
    rw [ItemStatus.wanted, if_neg (ne_true_of_eq_false live), if_pos task]
    have made := creation.counts calm accepted
    rw [Scene.backend_lose] at made
    simpa using (Scene.counts_fetch calm fetched).trans made
  | bare live bare creation =>
    rw [ItemStatus.wanted, if_neg (ne_true_of_eq_false live), if_neg (ne_true_of_eq_false bare)]
    exact creation.counts calm accepted

/-- **What the store counts in a turn.** -/
theorem Turn.counts (calm : c.IsCalm) {definition : String}
    (turn : Turn (Memory.engine c obs) p (p.item.statuses p.group) definition s (.ok o) s')
    (accepted : ¬ o.IsRefused) :
    s.backend.store.Counts s'.backend.store (p.entry definition).wanted.length
      o.newNames.length := by
  cases turn with
  | done look course =>
    obtain rfl := congrArg Prod.snd look
    have counts := course.counts calm accepted
    unfold Scene.announceChange
    split <;> exact counts

end Engine

/-- **What the store counts in all stitches.** -/
theorem Weaving.counts {ι τ : Type} [DecidableEq ι] {c : Chance} {obs : Observer τ}
    {passes : ι → Pass} {left left' : ι → List String} {s s' : Scene Memory τ}
    {stitches : List (Stitch ι)} (calm : c.IsCalm)
    (weaving : Weaving (Memory.engine c obs) passes left s stitches left' s')
    (accepted : ∀ q ∈ stitches, ¬ q.outcome.IsRefused) :
    s.backend.store.Counts s'.backend.store
      (stitches.flatMap fun q => (q.entry passes).wanted).length (newNames stitches).length := by
  induction weaving with
  | nil => exact ⟨rfl, rfl⟩
  | @cons _ _ _ _ _ q _ stitches _ turn _ _ ih =>
    obtain ⟨first, rest⟩ := List.forall_mem_cons.1 accepted
    rw [newNames, List.flatMap_cons, List.flatMap_cons, List.length_append, List.length_append]
    exact (turn.counts calm first).trans (ih rest)

end DeployChecks
