import DeployChecks.Proofs.Host.Run
import Mathlib.Data.List.Pairwise

/-!
# Proofs/Host/Entries — every entry has a task of its own

Names of tasks are drawn at random.  As long as they do not repeat, the entries of a pass name
pairwise different tasks, all of them known: named before, or created since.  Main definition:
`Distinct`; main statements: `Turn.distinct` for one turn, `Host.distinct_run` for a whole run.
-/

namespace DeployChecks

instance : Std.Symm ItemStatus.Apart := ⟨fun _ _ h => h.symm⟩

/-- An entry to start from that has a task is no fresh one. -/
theorem statusOrFresh_mem {definition : String} {statuses : List ItemStatus}
    (task : (statusOrFresh definition statuses).hasTask = true) :
    statusOrFresh definition statuses ∈ statuses := by
  unfold statusOrFresh at task ⊢
  cases found : findStatus definition statuses with
  | none => rw [found] at task; cases task
  | some s => exact List.mem_of_find?_eq_some found

/-- **The tasks that entries name.** -/
def namedTasks (statuses : List ItemStatus) : List String :=
  (statuses.filter (·.hasTask)).map (·.task)

/-! ## Changing one entry -/

/-- The entry in the middle, or one of the others. -/
theorem mem_middle {α : Type} {done rest : List α} {a b : α} :
    b ∈ done ++ a :: rest ↔ b = a ∨ b ∈ done ++ rest := by
  rw [List.perm_middle.mem_iff, List.mem_cons]

/-- **The entries name pairwise different tasks**, all of them among the known names. -/
structure Distinct (statuses : List ItemStatus) (names : List String) : Prop where
  /-- No task is named twice. -/
  apart : statuses.Pairwise ItemStatus.Apart
  /-- Every name is known. -/
  known : ∀ s ∈ statuses, s.hasTask = true → s.task ∈ names

namespace Distinct

variable {done rest : List ItemStatus} {a b : ItemStatus} {names names' : List String}

theorem grow {statuses : List ItemStatus} (h : Distinct statuses names) (sub : names ⊆ names') :
    Distinct statuses names' :=
  ⟨h.apart, fun s hs task => sub (h.known s hs task)⟩

theorem pairwise_middle :
    (done ++ a :: rest).Pairwise ItemStatus.Apart ↔
      (∀ s ∈ done ++ rest, ItemStatus.Apart a s) ∧ (done ++ rest).Pairwise ItemStatus.Apart := by
  rw [List.pairwise_middle ItemStatus.Apart.symm, List.pairwise_cons]

/-- An entry may change in everything but its task. -/
theorem replace (h : Distinct (done ++ a :: rest) names) (task : b.task = a.task) :
    Distinct (done ++ b :: rest) names := by
  obtain ⟨apart, known⟩ := h
  rw [pairwise_middle] at apart
  refine ⟨pairwise_middle.2 ⟨fun s hs hb => ?_, apart.2⟩, fun s hs hasTask => ?_⟩
  · rw [task]
    exact apart.1 s hs (by rwa [ItemStatus.hasTask, task] at hb)
  · rw [List.mem_append, List.mem_cons] at hs
    obtain hs | rfl | hs := hs
    · exact known s (by simp [hs]) hasTask
    · rw [task]
      exact known a (by simp) (by rwa [ItemStatus.hasTask, task] at hasTask)
    · exact known s (by simp [hs]) hasTask

/-- An entry may lose its task. -/
theorem clear (h : Distinct (done ++ a :: rest) names) (bare : b.hasTask = false) :
    Distinct (done ++ b :: rest) names := by
  obtain ⟨apart, known⟩ := h
  rw [pairwise_middle] at apart
  refine ⟨pairwise_middle.2 ⟨fun s _ hb => ?_, apart.2⟩, fun s hs hasTask => ?_⟩
  · rw [bare] at hb
    cases hb
  · rw [List.mem_append, List.mem_cons] at hs
    obtain hs | rfl | hs := hs
    · exact known s (by simp [hs]) hasTask
    · rw [bare] at hasTask
      cases hasTask
    · exact known s (by simp [hs]) hasTask

/-- **An entry may be given a task** under a new name. -/
theorem assign (h : Distinct (done ++ a :: rest) names) (new : b.task ∉ names) :
    Distinct (done ++ b :: rest) (names ++ [b.task]) := by
  obtain ⟨apart, known⟩ := h
  rw [pairwise_middle] at apart
  have others : ∀ s ∈ done ++ rest, s.hasTask = true → s.task ∈ names := fun s hs =>
    known s (by rw [List.mem_append] at hs; rcases hs with hs | hs <;> simp [hs])
  refine ⟨pairwise_middle.2 ⟨fun s hs hb e => ?_, apart.2⟩, fun s hs hasTask => ?_⟩
  · refine new (e ▸ others s hs ?_)
    rwa [ItemStatus.hasTask, ← e]
  · rw [List.mem_append, List.mem_cons] at hs
    obtain hs | rfl | hs := hs
    · exact List.mem_append_left _ (others s (by simp [hs]) hasTask)
    · simp
    · exact List.mem_append_left _ (others s (by simp [hs]) hasTask)

/-- Entries are distinct, if no name occurs twice in them. -/
theorem of_nodup {statuses : List ItemStatus} (h : (namedTasks statuses).Nodup) :
    Distinct statuses (namedTasks statuses) := by
  refine ⟨?_, fun s hs task => List.mem_map.2 ⟨s, List.mem_filter.2 ⟨hs, task⟩, rfl⟩⟩
  rw [namedTasks, List.Nodup, List.pairwise_map, List.pairwise_filter] at h
  refine h.imp fun {a b} ne ha => ?_
  cases hb : b.hasTask with
  | true => exact ne ha hb
  | false =>
    rw [ItemStatus.hasTask_eq_false_iff.1 hb]
    exact ItemStatus.hasTask_iff.1 ha

/-- **An entry with a task is the only one** that names it. -/
theorem filter_task {statuses : List ItemStatus} (h : Distinct statuses names)
    (mem : a ∈ statuses) (hasTask : a.hasTask = true) :
    statuses.filter (·.task = a.task) = [a] := by
  obtain ⟨done, rest, rfl⟩ := List.append_of_mem mem
  have others : ∀ s ∈ done ++ rest, s.task ≠ a.task := fun s hs e =>
    (pairwise_middle.1 h.apart).1 s hs hasTask e.symm
  rw [List.filter_append, List.filter_cons_of_pos (by simp),
    List.filter_eq_nil_iff.2 fun s hs => by simpa using others s (by simp [hs]),
    List.filter_eq_nil_iff.2 fun s hs => by simpa using others s (by simp [hs])]
  rfl

/-- The first entries of different definitions are apart, if all entries are. -/
theorem statusOrFresh {statuses : List ItemStatus} (h : Distinct statuses names)
    {declared : List String} (distinct : declared.Nodup) :
    Distinct (declared.map (statusOrFresh · statuses)) names := by
  have found : ∀ d, (DeployChecks.statusOrFresh d statuses).hasTask = true →
      DeployChecks.statusOrFresh d statuses ∈ statuses := fun _ => statusOrFresh_mem
  constructor
  · rw [List.pairwise_map]
    refine distinct.imp fun {d d'} ne task same => ?_
    have task' : (DeployChecks.statusOrFresh d' statuses).hasTask = true := by
      rwa [ItemStatus.hasTask, ← same]
    have different :
        DeployChecks.statusOrFresh d statuses ≠ DeployChecks.statusOrFresh d' statuses :=
      fun e => ne (by simpa using congrArg ItemStatus.definition e)
    exact h.apart.forall (found d task) (found d' task') different task same
  · intro s hs task
    obtain ⟨d, -, rfl⟩ := List.mem_map.1 hs
    exact h.known _ (found d task) task

end Distinct

/-! ## The names that a visit creates -/

namespace Scene

variable {σ τ : Type} {s s₁ : Scene σ τ} {e : Engine σ τ} {p : Pass}

theorem createdNames_fetch {status : ItemStatus} {answer : Option (Except StoreError Task)}
    (fetched : s.fetch e p status = (answer, s₁)) :
    createdNames s₁.calls = createdNames s.calls := by
  obtain h | h := s.calls_ask e fetched <;> simp [h, createdNames]

theorem createdNames_resolve {status : ItemStatus}
    {answer : Option (Except ResolveError TaskDefinition)}
    (resolved : s.resolve e p status = (answer, s₁)) :
    createdNames s₁.calls = createdNames s.calls := by
  obtain h | h := s.calls_ask e resolved <;> simp [h, createdNames]

/-- A task that is put in is called by its name. -/
theorem createdNames_put {t : Task} {answer : Except StoreError Task}
    (put : s.put e t = (some answer, s₁)) :
    createdNames s₁.calls = createdNames s.calls ++ [t.name] := by
  obtain ⟨h, -⟩ | made := s.ask_cases e put
  · cases h
  · have calls : s₁.calls = s.calls ++ [.create t] := (congrArg (fun r => r.2.calls) made).symm
    simp [calls, createdNames]

/-- **A task that is stamped and put in** is called by its name. -/
theorem createdNames_stamped {s₂ s₃ : Scene σ τ} {status : ItemStatus} {d : TaskDefinition}
    {draw : Nat} {resolution : Option (Except ResolveError TaskDefinition)}
    {answer : Except StoreError Task} (resolved : s.resolve e p status = (resolution, s₁))
    (drawn : s₁.sample e.backend.draw = (draw, s₂))
    (put : s₂.put e (p.stamp d draw) = (some answer, s₃)) :
    createdNames s₃.calls = createdNames s.calls ++ [(p.stamp d draw).name] := by
  obtain rfl := congrArg Prod.snd drawn
  rw [createdNames_put put, calls_sample, createdNames_resolve resolved]

@[simp] theorem createdNames_lose (ns task : String) :
    createdNames (s.lose e ns task).calls = createdNames s.calls := by
  rw [calls_lose]
  cases (e.observer.lookup (.forTask ns task) s.observer).1.1 <;> simp [createdNames]

@[simp] theorem createdNames_refresh (t : Task) (status : ItemStatus) :
    createdNames (s.refresh e p t status).2.calls = createdNames s.calls := by
  rw [calls_refresh]
  split <;> simp [createdNames]

@[simp] theorem createdNames_welcome (t : Task) (status : ItemStatus) :
    createdNames (s.welcome e p t status).2.calls = createdNames s.calls := by
  simp [createdNames]

@[simp] theorem createdNames_refused (status : ItemStatus) :
    createdNames (s.refused e p status).calls = createdNames s.calls := by
  simp [refused, createdNames]

@[simp] theorem createdNames_announceChange (definition : String) (previous : Option TaskState)
    (current : TaskState) :
    createdNames (s.announceChange e p definition previous current).calls
      = createdNames s.calls := by
  unfold announceChange
  split <;> simp [createdNames]

end Scene

theorem createdNames_subset {l l' : List Call} (h : l <+: l') :
    createdNames l ⊆ createdNames l' := by
  obtain ⟨more, rfl⟩ := h
  simp

/-! ## One turn -/

namespace Engine

variable {τ : Type} {c : Chance} {o : Observer τ} {p : Pass} {prior done rest : List ItemStatus}
  {old : List String} {s s' : Scene Memory τ}

theorem Creation.distinct {status : ItemStatus} {out : Outcome}
    (creation : Creation (Memory.engine c o) p status s (.ok out) s')
    (bare : status.hasTask = false) (fresh : (old ++ createdNames s'.calls).Nodup)
    (h : Distinct (done ++ status :: rest) (old ++ createdNames s.calls)) :
    Distinct (done ++ out.status :: rest) (old ++ createdNames s'.calls) := by
  cases creation with
  | unresolved resolved =>
    rw [Scene.createdNames_resolve resolved]
    exact h.clear bare
  | refused resolved drawn put =>
    refine (h.clear bare).grow (List.append_subset.2 ⟨List.subset_append_left _ _, ?_⟩)
    rw [Scene.createdNames_refused, Scene.createdNames_stamped resolved drawn put]
    simp
  | @created s₁ s₂ s₃ d draw t resolved drawn put =>
    obtain ⟨⟨⟩, -⟩ | ⟨_, ⟨⟩, -⟩ | ⟨answer, -⟩ := Scene.put_cases put
    obtain rfl : t = p.stamp d draw := by simpa using answer
    have names : createdNames (s₃.welcome (Memory.engine c o) p (p.stamp d draw) status).2.calls
        = createdNames s.calls ++ [(p.stamp d draw).name] := by
      rw [Scene.createdNames_welcome, Scene.createdNames_stamped resolved drawn put]
    rw [names, ← List.append_assoc] at fresh ⊢
    exact h.assign fun mem =>
      (List.nodup_append.1 fresh).2.2 _ mem _ (List.mem_singleton_self _) rfl

theorem Course.distinct {status : ItemStatus} {out : Outcome}
    (course : Course (Memory.engine c o) p status s (.ok out) s')
    (fresh : (old ++ createdNames s'.calls).Nodup)
    (h : Distinct (done ++ status :: rest) (old ++ createdNames s.calls)) :
    Distinct (done ++ out.status :: rest) (old ++ createdNames s'.calls) := by
  cases course with
  | finished => exact h
  | read _ _ fetched =>
    rw [Scene.createdNames_refresh, Scene.createdNames_fetch fetched]
    exact h.replace (Scene.task_refresh _ _)
  | lost _ _ fetched _ creation =>
    refine creation.distinct rfl fresh ?_
    rw [Scene.createdNames_lose, Scene.createdNames_fetch fetched]
    exact h.clear rfl
  | bare _ bare creation => exact creation.distinct bare fresh h

/-- **One turn keeps the entries distinct**, if no name repeats. -/
theorem Turn.distinct {definition : String} {out : Outcome}
    (turn : Turn (Memory.engine c o) p prior definition s (.ok out) s')
    (fresh : (old ++ createdNames s'.calls).Nodup)
    (h : Distinct (done ++ statusOrFresh definition prior :: rest) (old ++ createdNames s.calls)) :
    Distinct (done ++ out.status :: rest) (old ++ createdNames s'.calls) := by
  cases turn with
  | done look course =>
    rw [Scene.createdNames_announceChange] at fresh ⊢
    obtain rfl := congrArg Prod.snd look
    exact course.distinct fresh h

/-- Names that do not repeat: those known from the beginning and those created since. -/
theorem nodup_names_of_earlier {l l' : List Call} (h : l <+: l')
    (nodup : (old ++ createdNames l').Nodup) : (old ++ createdNames l).Nodup := by
  obtain ⟨more, rfl⟩ := h
  rw [createdNames_append, ← List.append_assoc] at nodup
  exact (List.nodup_append.1 nodup).1

variable (c o p prior old) in
/-- **The entries of a pass are distinct**, as long as no name repeats. -/
def distinctEntries : PassInvariant (Memory.engine c o) p prior where
  Good calls := (old ++ createdNames calls).Nodup
  Holds done rest s := Distinct (done ++ rest) (old ++ createdNames s.calls)
  Left done rest s := Distinct (done ++ rest) (old ++ createdNames s.calls)
  good_of_earlier := nodup_names_of_earlier
  step fresh h turn := by
    rw [List.append_assoc]
    exact turn.distinct fresh h
  finish h := h
  stop _ h turn := h.grow (List.append_subset.2 ⟨List.subset_append_left _ _,
    List.Subset.trans (createdNames_subset turn.calls_grow) (List.subset_append_right _ _)⟩)

end Engine

/-! ## A whole run -/

namespace Host

variable {τ : Type} {u : Setup τ} {h : Host τ} {old : List String}

/-- The entries that the next pass starts from. -/
def entries (u : Setup τ) (h : Host τ) : List ItemStatus :=
  (h.declared u).map (statusOrFresh · (h.statuses u))

/-- The entries that a pass has stored are those that the next one starts from. -/
theorem entries_pass (distinct : (h.declared u).Nodup) (context : Trace.Context)
    (chance : Chance) :
    (h.pass u context chance).2.entries u = keptStatuses (h.pass u context chance).1 := by
  have declared : (h.pass u context chance).2.declared u = h.declared u :=
    h.declared_step u (.pass context chance)
  rw [entries, declared, map_statusOrFresh (h.definitions_pass u context chance) distinct,
    statuses_pass]

theorem distinct_pass (distinct : (h.declared u).Nodup) {context : Trace.Context} {chance : Chance}
    (fresh : (old ++ createdNames (h.pass u context chance).2.calls).Nodup)
    (start : Distinct (h.statuses u) (old ++ createdNames h.calls)) :
    Distinct ((h.pass u context chance).2.statuses u)
      (old ++ createdNames (h.pass u context chance).2.calls) := by
  obtain ⟨done, rest, kept, -, holds⟩ :=
    (Engine.distinctEntries chance u.observer (h.passOf u context) (h.statuses u) old).left_ending
      (h.pass_ending u context chance) fresh (start.statusOrFresh distinct)
  rw [statuses_pass, kept]
  exact holds

/-- **The entries that a host stores are distinct** after every run, if they were before and no
name repeats. -/
theorem distinct_run (distinct : (h.declared u).Nodup) (moves : List Move)
    (fresh : (old ++ createdNames (h.run u moves).calls).Nodup)
    (start : Distinct (h.statuses u) (old ++ createdNames h.calls)) :
    Distinct ((h.run u moves).statuses u) (old ++ createdNames (h.run u moves).calls) := by
  induction moves generalizing h with
  | nil => exact start
  | cons m moves ih =>
    refine ih (by rwa [declared_step]) fresh ?_
    have fresh := Engine.nodup_names_of_earlier (calls_grow_run u (h.step u m) moves) fresh
    cases m with
    | pass context chance => exact distinct_pass distinct fresh start
    | _ => exact start

end Host

end DeployChecks
