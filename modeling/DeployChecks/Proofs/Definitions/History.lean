import DeployChecks.Proofs.Host.Ownership
import DeployChecks.Proofs.Keyed
import DeployChecks.Proofs.Lists
import Mathlib.Data.List.Induction

/-!
# Proofs/Definitions/History — what a registry answers, from what was done to it

A registry is changed by registrations and unregistrations, and the last change under a key decides
what is found there: a definition is **live** if it was registered and its key was left alone since
(`IsLive`).  Resolution looks at two keys, so its answer follows from the history too (`IsAnswer`),
and a pass stamps its new tasks from such answers alone (`Memory.Stamps`).  Main statement:
`resolution_follows_history`.
-/

namespace DeployChecks

namespace DefinitionRegistry

/-! ## Histories -/

/-- **A change of a registry.** -/
inductive Change where
  /-- A definition is registered. -/
  | register (d : TaskDefinition)
  /-- A definition is unregistered. -/
  | unregister (k : DefinitionKey)

namespace Change

/-- The key it is about. -/
def key : Change → DefinitionKey
  | register d => d.key
  | unregister k => k

/-- What it leaves under the key. -/
def definition? : Change → Option TaskDefinition
  | register d => some d
  | unregister _ => none

end Change

/-- The registry after a change. -/
def step (r : DefinitionRegistry) : Change → DefinitionRegistry
  | .register d => r.register d
  | .unregister k => (r.unregister k).2

/-- **The registry after a history.** -/
def run (r : DefinitionRegistry) (changes : List Change) : DefinitionRegistry :=
  changes.foldl step r

/-- **A definition is live** under a key: it is the last that was registered there, and it was not
unregistered since. -/
def IsLive (changes : List Change) (k : DefinitionKey) (d : TaskDefinition) : Prop :=
  d.key = k ∧ ∃ before after, changes = before ++ .register d :: after ∧ ∀ c ∈ after, c.key ≠ k

/-- **What resolving a name has to answer** after a history. -/
inductive IsAnswer (shared : String) (changes : List Change) (name ns : String) :
    Except ResolveError TaskDefinition → Prop
  /-- The definition of the namespace. -/
  | own {d : TaskDefinition} (live : IsLive changes ⟨ns, name⟩ d) :
    IsAnswer shared changes name ns (.ok d)
  /-- The shared definition, if the namespace has none. -/
  | shared {d : TaskDefinition} (bare : ∀ d, ¬ IsLive changes ⟨ns, name⟩ d)
      (live : IsLive changes ⟨shared, name⟩ d) : IsAnswer shared changes name ns (.ok d)
  /-- That there is neither. -/
  | missing (bare : ∀ d, ¬ IsLive changes ⟨ns, name⟩ d)
      (absent : ∀ d, ¬ IsLive changes ⟨shared, name⟩ d) :
    IsAnswer shared changes name ns (.error (.notFound ns name))

variable {shared name ns : String} {changes : List Change} {c : Change} {r : DefinitionRegistry}
  {k : DefinitionKey} {d : TaskDefinition}

/-! ## The last change decides -/

theorem find?_step : (r.step c).find? k = if k = c.key then c.definition? else r.find? k := by
  cases c with
  | register d => exact Keyed.find?_insert _ _ _ _
  | unregister k' => exact Keyed.find?_erase _ _ _

theorem defaultNamespace_run : (r.run changes).defaultNamespace = r.defaultNamespace := by
  induction changes generalizing r with
  | nil => rfl
  | cons c changes ih =>
    refine ih.trans ?_
    cases c <;> rfl

/-- With one more change, only what is live under its key is another. -/
theorem isLive_concat :
    IsLive (changes ++ [c]) k d ↔ if k = c.key then c.definition? = some d else IsLive changes k d := by
  constructor
  · rintro ⟨own, before, after, split, quiet⟩
    obtain ⟨rfl, rfl, rfl⟩ | ⟨after, rfl, rfl⟩ := concat_eq_middle split
    · exact (if_pos own.symm).mpr rfl
    · rw [List.forall_mem_append, List.forall_mem_singleton] at quiet
      rw [if_neg quiet.2.symm]
      exact ⟨own, before, after, rfl, quiet.1⟩
  · split
    · next same =>
      intro left
      obtain rfl : c = .register d := by
        cases c with
        | register d' => rw [Option.some.inj left]
        | unregister k' => cases left
      exact ⟨same.symm, changes, [], rfl, nofun⟩
    · next other =>
      rintro ⟨own, before, after, rfl, quiet⟩
      refine ⟨own, before, after ++ [c], by simp, ?_⟩
      rw [List.forall_mem_append, List.forall_mem_singleton]
      exact ⟨quiet, Ne.symm other⟩

/-- **What is found is what is live.** -/
theorem find?_run : ((empty shared).run changes).find? k = some d ↔ IsLive changes k d := by
  -- from the end, since the last change decides
  induction changes using List.reverseRecOn with
  | nil =>
    refine ⟨nofun, ?_⟩
    rintro ⟨-, before, after, split, -⟩
    cases before <;> cases split
  | append_singleton changes c ih =>
    rw [run, List.foldl_concat, ← run, find?_step, isLive_concat]
    split
    · exact Iff.rfl
    · exact ih

theorem find?_run_eq_none :
    ((empty shared).run changes).find? k = none ↔ ∀ d, ¬ IsLive changes k d := by
  rw [Option.eq_none_iff_forall_ne_some]
  exact forall_congr' fun d => not_congr find?_run

/-! ## What is resolved -/

theorem resolve_of_find? (found : r.find? ⟨ns, name⟩ = some d) : r.resolve name ns = .ok d := by
  rw [resolve, found]
  rfl

theorem resolve_of_bare (bare : r.find? ⟨ns, name⟩ = none) :
    r.resolve name ns
      = (r.find? ⟨r.defaultNamespace, name⟩).elim (.error (.notFound ns name)) .ok := by
  rw [resolve, bare, Option.none_or]
  cases r.find? ⟨r.defaultNamespace, name⟩ <;> rfl

/-- **Resolution answers from the history.** -/
theorem resolve_run_iff {answer : Except ResolveError TaskDefinition} :
    ((empty shared).run changes).resolve name ns = answer
      ↔ IsAnswer shared changes name ns answer := by
  have common : ((empty shared).run changes).defaultNamespace = shared := defaultNamespace_run
  constructor
  · rintro rfl
    cases here : ((empty shared).run changes).find? ⟨ns, name⟩ with
    | some d =>
      rw [resolve_of_find? here]
      exact .own (find?_run.1 here)
    | none =>
      rw [resolve_of_bare here, common]
      have bare := find?_run_eq_none.1 here
      cases there : ((empty shared).run changes).find? ⟨shared, name⟩ with
      | some d => exact .shared bare (find?_run.1 there)
      | none => exact .missing bare (find?_run_eq_none.1 there)
  · intro right
    cases right with
    | own live => exact resolve_of_find? (find?_run.2 live)
    | shared bare live =>
      rw [resolve_of_bare (find?_run_eq_none.2 bare), common, find?_run.2 live]
      rfl
    | missing bare absent =>
      rw [resolve_of_bare (find?_run_eq_none.2 bare), common, find?_run_eq_none.2 absent]
      rfl

/-- A resolved definition is one of the namespace or one that all share. -/
theorem IsAnswer.ns_eq (right : IsAnswer shared changes name ns (.ok d)) :
    d.name = name ∧ (d.ns = ns ∨ d.ns = shared) := by
  cases right with
  | own live =>
    exact ⟨congrArg DefinitionKey.name live.1, .inl (congrArg DefinitionKey.ns live.1)⟩
  | shared _ live =>
    exact ⟨congrArg DefinitionKey.name live.1, .inr (congrArg DefinitionKey.ns live.1)⟩

/-- **A change under another key changes no answer.** -/
theorem resolve_step_of_ne (own : c.key ≠ ⟨ns, name⟩) (shared : c.key ≠ ⟨r.defaultNamespace, name⟩) :
    (r.step c).resolve name ns = r.resolve name ns := by
  have same : (r.step c).defaultNamespace = r.defaultNamespace := by cases c <;> rfl
  rw [resolve, resolve, same, find?_step, find?_step, if_neg own.symm, if_neg shared.symm]

/-! ## What is listed -/

/-- **The keys of a registry** are those under which a definition is live. -/
theorem mem_keys_run :
    k ∈ ((empty shared).run changes).definitions.keys ↔ ∃ d, IsLive changes k d :=
  Keyed.mem_keys.trans (exists_congr fun _ => find?_run)

theorem isEmpty_iff : r.isEmpty = true ↔ r.definitions.keys = [] := by
  rw [isEmpty, size, Keyed.size, Keyed.keys, List.map_eq_nil_iff, beq_iff_eq,
    List.length_eq_zero_iff]

end DefinitionRegistry

/-! ## What a pass stamps -/

/-- **The new tasks of a memory are stamped** from what names resolve to, and its definitions are
those from before. -/
structure Memory.Stamps (p : Pass) (names : List String) (m m' : Memory) : Prop where
  /-- The definitions. -/
  registry : m'.registry = m.registry
  /-- The tasks. -/
  stamped : ∀ k t, m'.store.peek k = some t → m.store.peek k = some t ∨
    ∃ name ∈ names, ∃ d draw, m.registry.resolve name p.item.ns = .ok d ∧ t = p.stamp d draw

namespace Memory.Stamps

variable {p : Pass} {names names' : List String} {m m' m'' : Memory}

theorem of_same (same : Same m m') : Stamps p names m m' where
  registry := same.registry
  stamped k t found := .inl (by rwa [TaskStore.peek, same.tasks] at found)

theorem mono (h : Stamps p names m m') (more : names ⊆ names') : Stamps p names' m m' where
  registry := h.registry
  stamped k t found := by
    rcases h.stamped k t found with old | ⟨name, inside, made⟩
    · exact .inl old
    · exact .inr ⟨name, more inside, made⟩

theorem trans (h : Stamps p names m m') (h' : Stamps p names m' m'') : Stamps p names m m'' where
  registry := h'.registry.trans h.registry
  stamped k t found := by
    rcases h'.stamped k t found with old | made
    · exact h.stamped k t old
    · rw [h.registry] at made
      exact .inr made

end Memory.Stamps

namespace Engine

variable {τ : Type} {c : Chance} {o : Observer τ} {p : Pass} {prior : List ItemStatus}
  {x : ItemStatus} {definition : String} {definitions : List String} {s s' : Scene Memory τ}
  {result : Except Interruption Outcome}

theorem Creation.stamps (creation : Creation (Memory.engine c o) p x s result s') :
    s.backend.Stamps p [x.definition] s'.backend := by
  cases creation with
  | unanswered resolved | unresolved resolved => exact .of_same (Scene.resolve_cases resolved).1
  | dropped resolved drawn put =>
    exact .of_same (Creation.dropped resolved drawn put).same_of_error
  | refused resolved drawn put =>
    exact .of_same ((Scene.same_of_refused resolved drawn put).trans (Scene.same_announce _ _ _ _))
  | @created s₁ s₂ s₃ d draw t resolved drawn put =>
    obtain ⟨rfl, -, tasks, registry⟩ := Scene.created_of_put resolved drawn put
    refine .trans ⟨registry, fun k t found => ?_⟩ (.of_same (Scene.same_welcome _ x))
    rw [TaskStore.peek, tasks, Keyed.find?_insert] at found
    split at found
    · exact .inr ⟨_, List.mem_singleton_self _, d, draw, Scene.resolved_of_resolve resolved,
        (Option.some.inj found).symm⟩
    · exact .inl found

theorem Course.stamps (course : Course (Memory.engine c o) p x s result s') :
    s.backend.Stamps p [x.definition] s'.backend := by
  cases course with
  | finished => exact .of_same (.refl _)
  | unanswered _ _ fetched | unread _ _ fetched _ => exact .of_same (Scene.fetch_cases fetched).1
  | read _ _ fetched =>
    exact .of_same ((Scene.fetch_cases fetched).1.trans (Scene.same_refresh _ _))
  | lost _ _ fetched _ creation =>
    exact .trans (.of_same ((Scene.fetch_cases fetched).1.trans (Scene.same_lose _ _)))
      creation.stamps
  | bare _ _ creation => exact creation.stamps

theorem Turn.stamps (turn : Turn (Memory.engine c o) p prior definition s result s') :
    s.backend.Stamps p [definition] s'.backend := by
  cases turn with
  | stopped look =>
    obtain rfl := congrArg Prod.snd look
    exact .of_same Scene.same_look
  | interrupted look course =>
    obtain rfl := congrArg Prod.snd look
    have stamps := course.stamps
    rw [definition_statusOrFresh] at stamps
    exact .trans (.of_same Scene.same_look) stamps
  | done look course =>
    obtain rfl := congrArg Prod.snd look
    have stamps := course.stamps
    rw [definition_statusOrFresh] at stamps
    exact (Memory.Stamps.of_same Scene.same_look).trans
      (stamps.trans (.of_same (Scene.same_announceChange _ _ _)))

theorem Turns.stamps {os : List Outcome}
    (turns : Turns (Memory.engine c o) p prior definitions s os s') :
    s.backend.Stamps p definitions s'.backend := by
  induction turns with
  | nil => exact .of_same (.refl _)
  | cons turn _ ih =>
    exact (turn.stamps.mono (by simp)).trans (ih.mono (List.subset_cons_self _ _))

/-- **A pass stamps its new tasks** from what the declared names resolve to, however it ends. -/
theorem Ending.stamps {r : Reconciliation} {result : Except PassError Reconciliation}
    (ending : Ending (Memory.engine c o) p prior r definitions s result s') :
    s.backend.Stamps p definitions s'.backend := by
  cases ending with
  | complete turns => exact turns.stamps
  | cut split turns turn =>
    subst split
    exact (turns.stamps.mono (List.subset_append_left _ _)).trans (turn.stamps.mono (by simp))

end Engine

/-! ## A registry and its history -/

namespace DefinitionRegistry

/-- **A registry follows its history.** -/
structure Follows (shared : String) (changes : List Change) (r : DefinitionRegistry) : Prop where
  /-- Resolution gives the live definition of the namespace, else the live one that all share, else
  it says what was not found. -/
  resolve : ∀ name ns answer,
    r.resolve name ns = answer ↔ IsAnswer shared changes name ns answer
  /-- What is resolved has the name, and the namespace or the shared one. -/
  resolved : ∀ name ns d, r.resolve name ns = .ok d → d.name = name ∧ (d.ns = ns ∨ d.ns = shared)
  /-- A pass over the registry leaves it as it is, and each of its new tasks is stamped from the
  answer to a declared name and records that name. -/
  recorded : ∀ {τ : Type} (chance : Chance) (o : Observer τ) (p : Pass) (w : World Memory τ),
    w.backend.registry = r →
    let m := ((Memory.engine chance o).reconcile p w).2.backend
    m.registry = r ∧ ∀ k t, m.store.peek k = some t → w.backend.store.peek k = some t ∨
      ∃ name ∈ p.item.declared p.group, t.spec.definition = name ∧
        ∃ d draw, IsAnswer shared changes name p.item.ns (.ok d) ∧ t = p.stamp d draw
  /-- A change under another key changes no answer. -/
  elsewhere : ∀ name ns (c : Change), c.key ≠ ⟨ns, name⟩ → c.key ≠ ⟨shared, name⟩ →
    (r.step c).resolve name ns = r.resolve name ns
  /-- Unregistering the definition of a namespace uncovers the shared one, if there is one. -/
  uncovered : ∀ name ns, ns ≠ shared →
    (r.unregister ⟨ns, name⟩).2.find? ⟨shared, name⟩ = r.find? ⟨shared, name⟩ ∧
      (r.unregister ⟨ns, name⟩).2.resolve name ns
        = (r.find? ⟨shared, name⟩).elim (.error (.notFound ns name)) .ok
  /-- Unregistering a definition that all share leaves nothing to fall back to. -/
  removed : ∀ name, (r.unregister ⟨shared, name⟩).2.find? ⟨shared, name⟩ = none ∧
    (r.unregister ⟨shared, name⟩).2.resolve name shared = .error (.notFound shared name)
  /-- Unregistering gives exactly the definition that was live, and takes it out. -/
  unregister : ∀ k d, ((r.unregister k).1 = some d ↔ IsLive changes k d) ∧
    ¬ IsLive (changes ++ [.unregister k]) k d
  /-- The size is the number of keys under which a definition is live. -/
  size : ∃ keys : List DefinitionKey, keys.Nodup ∧ (∀ k, k ∈ keys ↔ ∃ d, IsLive changes k d) ∧
    r.size = keys.length
  /-- It is empty if no definition is live. -/
  isEmpty : r.isEmpty = true ↔ ∀ k d, ¬ IsLive changes k d

/-- **What a registry answers follows from its history**, whatever was registered and unregistered
under whatever keys. -/
theorem resolution_follows_history (shared : String) (changes : List Change) :
    Follows shared changes ((empty shared).run changes) := by
  have common : ((empty shared).run changes).defaultNamespace = shared := defaultNamespace_run
  generalize reached : (empty shared).run changes = r at common
  have found {k d} : r.find? k = some d ↔ IsLive changes k d := reached ▸ find?_run
  have answers {name ns answer} :
      r.resolve name ns = answer ↔ IsAnswer shared changes name ns answer :=
    reached ▸ resolve_run_iff
  have left (k k' : DefinitionKey) :
      (r.unregister k).2.find? k' = if k' = k then none else r.find? k' :=
    find?_step (c := .unregister k)
  refine
    { resolve := fun name ns answer => answers
      resolved := fun name ns d resolved => (answers.1 resolved).ns_eq
      recorded := ?_
      elsewhere := fun name ns c own other => resolve_step_of_ne own (common ▸ other)
      uncovered := ?_
      removed := ?_
      unregister := fun k d => ⟨found, ?_⟩
      size := ⟨r.definitions.keys, r.definitions.nodup, fun k => reached ▸ mem_keys_run, ?_⟩
      isEmpty := ?_ }
  · intro τ chance o p w same
    have stamps := (Engine.reconcile_ending (Memory.engine chance o) p w).stamps
    refine ⟨stamps.registry.trans same, fun k t inside => ?_⟩
    rcases stamps.stamped k t inside with old | ⟨name, declared, d, draw, resolved, rfl⟩
    · exact .inl old
    · have right := answers.1 (same ▸ resolved)
      exact .inr ⟨name, declared, right.ns_eq.1, d, draw, right, rfl⟩
  · intro name ns other
    have kept : (r.unregister ⟨ns, name⟩).2.find? ⟨shared, name⟩ = r.find? ⟨shared, name⟩ := by
      rw [left, if_neg fun h => other (congrArg DefinitionKey.ns h).symm]
    refine ⟨kept, ?_⟩
    rw [resolve_of_bare (by rw [left, if_pos rfl]), ← kept, ← common]
    rfl
  · intro name
    have gone : (r.unregister ⟨shared, name⟩).2.find? ⟨shared, name⟩ = none := by
      rw [left, if_pos rfl]
    refine ⟨gone, ?_⟩
    rw [resolve_of_bare gone, show (r.unregister ⟨shared, name⟩).2.defaultNamespace = shared from
      common, gone]
    rfl
  · rw [isLive_concat, if_pos (show k = (Change.unregister k).key from rfl)]
    exact nofun
  · exact (List.length_map _).symm
  · rw [isEmpty_iff, List.eq_nil_iff_forall_not_mem, ← reached]
    exact forall_congr' fun k => (not_congr mem_keys_run).trans not_exists

end DefinitionRegistry

end DeployChecks
