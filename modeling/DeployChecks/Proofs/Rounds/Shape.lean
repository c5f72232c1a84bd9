import DeployChecks.Proofs.Host.Entries
import DeployChecks.Proofs.Rounds.Basic

/-!
# Proofs/Rounds/Shape — which fields of an entry go together

The fields of an entry are written one by one, at different moments, and some only if they are not
set.  Still an entry is always of one of four shapes: without a task, with one that runs, with one
that is finished, and in each it has just the times that belong there.  The reason is that a turn
moves a well-formed entry on in one of five ways (`Progress`), and that a task is only ever created
for an entry that is as good as new.  Main statement: `entries_stay_well_formed`.
-/

namespace DeployChecks

open Trace (Context)

/-! ## The shape of an entry -/

namespace ItemStatus

/-- **An entry is well formed**: each field is set exactly when the others say so. -/
structure IsWellFormed (x : ItemStatus) : Prop where
  /-- There is a task exactly if there is a start. -/
  start : x.hasTask = true ↔ x.startTime.isSome = true
  /-- Without a task it is pending, and has neither time. -/
  bare : x.hasTask = false → x.state = .pending ∧ x.startTime = none ∧ x.endTime = none
  /-- There is an end exactly if it is finished. -/
  finish : x.endTime.isSome = true ↔ x.isTerminal = true
  /-- What is finished has a task. -/
  task : x.isTerminal = true → x.hasTask = true

/-- **The start is not after the end.** -/
def IsInOrder (x : ItemStatus) : Prop :=
  ∀ a b, x.startTime = some a → x.endTime = some b → a.le b = true

theorem isWellFormed_fresh (definition : String) : (fresh definition).IsWellFormed :=
  ⟨by simp [fresh, hasTask], fun _ => ⟨rfl, rfl, rfl⟩,
    by simp [fresh, isTerminal, TaskState.isTerminal], nofun⟩

namespace IsWellFormed

variable {x : ItemStatus}

/-- An entry that is not finished has no end. -/
theorem endTime_of_live (wf : x.IsWellFormed) (live : x.isTerminal = false) : x.endTime = none := by
  rw [← Option.not_isSome_iff_eq_none, wf.finish, live]
  decide

/-- Without a task an entry is as good as new. -/
theorem eq_fresh (wf : x.IsWellFormed) (bare : x.hasTask = false) : x = fresh x.definition := by
  obtain ⟨definition, task, state, startTime, endTime⟩ := x
  obtain ⟨rfl, rfl, rfl⟩ := wf.bare bare
  obtain rfl := hasTask_eq_false_iff.1 bare
  rfl

/-- So is an entry that has lost its task. -/
theorem withoutTask_eq_fresh (wf : x.IsWellFormed) (live : x.isTerminal = false) :
    x.withoutTask = fresh x.definition := by
  rw [withoutTask, wf.endTime_of_live live]
  rfl

end IsWellFormed

end ItemStatus

theorem isWellFormed_statusOrFresh {statuses : List ItemStatus}
    (wf : ∀ x ∈ statuses, x.IsWellFormed) (definition : String) :
    (statusOrFresh definition statuses).IsWellFormed :=
  statusOrFresh_of_forall wf (ItemStatus.isWellFormed_fresh definition)

/-! ## Between two scenes -/

/-- **No task is created between two scenes.** -/
structure Scene.Idle {τ : Type} (s s' : Scene Memory τ) : Prop where
  /-- Time goes on. -/
  looks : s.backend.looks ≤ s'.backend.looks
  /-- Calls are added. -/
  grow : s.calls <+: s'.calls
  /-- No task is put in. -/
  names : createdNames s'.calls = createdNames s.calls

namespace Scene

variable {τ α : Type} {s s₁ : Scene Memory τ} {c : Chance} {o : Observer τ} {p : Pass}

theorem Idle.trans {s₂ : Scene Memory τ} (h : s.Idle s₁) (h' : s₁.Idle s₂) : s.Idle s₂ :=
  ⟨Nat.le_trans h.looks h'.looks, h.grow.trans h'.grow, h'.names.trans h.names⟩

/-- No look at chance is taken back by asking. -/
theorem looks_le_ask {call : Call} {x : Act Memory (Option α)} {answer : Option α}
    (grow : ∀ m, m.looks ≤ (x m).2.looks)
    (asked : s.ask (Memory.engine c o) call x = (answer, s₁)) :
    s.backend.looks ≤ s₁.backend.looks := by
  obtain ⟨-, rfl⟩ | made := s.ask_cases _ asked
  · exact Nat.le_succ _
  · obtain rfl := (congrArg Prod.snd made).symm
    exact Nat.le_trans (Nat.le_succ _) (grow (s.look (Memory.engine c o)).2.backend)

theorem looks_le_settle {ε : Type} (m : Memory) (fate : Fate ε) (answer : Except ε α)
    (store : TaskStore) : m.looks ≤ (m.next.settle fate answer store).2.looks := by
  cases fate <;> exact Nat.le_succ _

theorem looks_le_resolve {status : ItemStatus}
    {answer : Option (Except ResolveError TaskDefinition)}
    (resolved : s.resolve (Memory.engine c o) p status = (answer, s₁)) :
    s.backend.looks ≤ s₁.backend.looks :=
  looks_le_ask (fun m => looks_le_settle m _ _ _) resolved

theorem looks_le_put {t : Task} {answer : Option (Except StoreError Task)}
    (put : s.put (Memory.engine c o) t = (answer, s₁)) : s.backend.looks ≤ s₁.backend.looks :=
  looks_le_ask (fun m => looks_le_settle m _ _ _) put

/-- What leads to a creation takes no look back. -/
theorem looks_le_stamped {s₂ s₃ : Scene Memory τ} {status : ItemStatus} {d : TaskDefinition}
    {draw : Nat} {resolution : Option (Except ResolveError TaskDefinition)}
    {answer : Option (Except StoreError Task)}
    (resolved : s.resolve (Memory.engine c o) p status = (resolution, s₁))
    (drawn : s₁.sample (Memory.engine c o).backend.draw = (draw, s₂))
    (put : s₂.put (Memory.engine c o) (p.stamp d draw) = (answer, s₃)) :
    s.backend.looks ≤ s₃.backend.looks := by
  have begun := looks_le_resolve resolved
  obtain rfl := congrArg Prod.snd drawn
  exact Nat.le_trans begun (Nat.le_trans (Nat.le_succ _) (looks_le_put put))

theorem looks_le_refresh (t : Task) (status : ItemStatus) :
    s.backend.looks ≤ (s.refresh (Memory.engine c o) p t status).2.backend.looks := by
  unfold refresh
  split
  · exact Nat.le_add_right _ 2
  · exact Nat.le_refl _

theorem idle_look : s.Idle (s.look (Memory.engine c o)).2 :=
  ⟨Nat.le_succ _, List.prefix_refl _, rfl⟩

theorem idle_fetch {status : ItemStatus} {answer : Option (Except StoreError Task)}
    (fetched : s.fetch (Memory.engine c o) p status = (answer, s₁)) : s.Idle s₁ :=
  ⟨looks_le_ask (fun m => looks_le_settle m _ _ _) fetched, calls_grow_ask fetched,
    createdNames_fetch fetched⟩

theorem idle_lose (ns task : String) : s.Idle (s.lose (Memory.engine c o) ns task) := by
  refine ⟨Nat.le_of_eq (congrArg Memory.looks (s.backend_lose _ ns task).symm), ?_,
    createdNames_lose ns task⟩
  rw [calls_lose]
  exact List.prefix_append _ _

theorem idle_announceChange (definition : String) (previous : Option TaskState)
    (current : TaskState) :
    s.Idle (s.announceChange (Memory.engine c o) p definition previous current) := by
  refine ⟨?_, calls_grow_announceChange p definition previous current,
    createdNames_announceChange definition previous current⟩
  unfold announceChange
  split
  · exact Nat.le_refl _
  · exact Nat.le_succ _

end Scene

/-! ## How a turn moves an entry on -/

/-- **How a turn moves a well-formed entry on**, from one scene to another. -/
inductive Progress {τ : Type} (c : Chance) (s s' : Scene Memory τ) (x : ItemStatus) :
    Outcome → Prop
  /-- It is finished, and left alone. -/
  | finished (terminal : x.isTerminal = true) (idle : s.Idle s') : Progress c s s' x (.unchanged x)
  /-- Its task is seen, and runs. -/
  | runs {state : TaskState} (live : x.isTerminal = false) (task : x.hasTask = true)
      (idle : s.Idle s') (more : state.isTerminal = false) :
    Progress c s s' x (.refreshed { x with state } false)
  /-- Its task is seen finished: the end is the time that the clock then shows. -/
  | ends {state : TaskState} {n : Nat} (live : x.isTerminal = false) (task : x.hasTask = true)
      (idle : s.Idle s') (terminal : state.isTerminal = true) (late : s.backend.looks ≤ n)
      (early : n < s'.backend.looks) :
    Progress c s s' x (.refreshed { x with state, endTime := some (c.clock n) } true)
  /-- There is no task, or no more, and none is created. -/
  | bare {reason : SkipReason} (live : x.isTerminal = false) :
    Progress c s s' x (.skipped (.fresh x.definition) reason)
  /-- There is no task, or no more, and one is created: the start is the time that the clock then
  shows, whatever start the lost task had. -/
  | created {t : Task} {n : Nat} (live : x.isTerminal = false) (named : t.name ≠ "")
      (made : .create t ∈ s'.calls.drop s.calls.length) (late : s.backend.looks ≤ n)
      (early : n < s'.backend.looks) :
    Progress c s s' x (.created ⟨x.definition, t.name, .pending, some (c.clock n), none⟩)

namespace Progress

variable {τ : Type} {c : Chance} {s s₁ s' : Scene Memory τ} {x : ItemStatus} {o : Outcome}

/-- What comes before a turn and creates nothing can be counted in. -/
theorem after_idle (idle : s.Idle s₁) (progress : Progress c s₁ s' x o) : Progress c s s' x o := by
  cases progress with
  | finished terminal h => exact .finished terminal (idle.trans h)
  | runs live task h more => exact .runs live task (idle.trans h) more
  | ends live task h terminal late early =>
    exact .ends live task (idle.trans h) terminal (Nat.le_trans idle.looks late) early
  | bare live => exact .bare live
  | created live named made late early =>
    exact .created live named ((List.drop_sublist_drop_left _ idle.grow.length_le).subset made)
      (Nat.le_trans idle.looks late) early

/-- So can what comes after it. -/
theorem before_idle (progress : Progress c s s₁ x o) (idle : s₁.Idle s') : Progress c s s' x o := by
  cases progress with
  | finished terminal h => exact .finished terminal (h.trans idle)
  | runs live task h more => exact .runs live task (h.trans idle) more
  | ends live task h terminal late early =>
    exact .ends live task (h.trans idle) terminal late (Nat.lt_of_lt_of_le early idle.looks)
  | bare live => exact .bare live
  | created live named made late early =>
    obtain ⟨more, grow⟩ := idle.grow
    refine .created live named ?_ late (Nat.lt_of_lt_of_le early idle.looks)
    rw [← grow, List.drop_append]
    exact List.mem_append_left _ made

/-- **An entry that moves on stays well formed.** -/
theorem isWellFormed (progress : Progress c s s' x o) (wf : x.IsWellFormed) :
    o.status.IsWellFormed := by
  cases progress with
  | finished => exact wf
  | runs live task _ more =>
    have never := wf.endTime_of_live live
    exact ⟨wf.start, fun bare => absurd (bare.symm.trans task) Bool.false_ne_true,
      by simp [Outcome.status, never, ItemStatus.isTerminal, more], fun _ => task⟩
  | ends live task _ terminal =>
    exact ⟨wf.start, fun bare => absurd (bare.symm.trans task) Bool.false_ne_true,
      by simp [Outcome.status, ItemStatus.isTerminal, terminal], fun _ => task⟩
  | bare => exact ItemStatus.isWellFormed_fresh _
  | @created t n live named =>
    have task : (ItemStatus.mk x.definition t.name .pending (some (c.clock n)) none).hasTask
        = true := ItemStatus.hasTask_iff.2 named
    exact ⟨⟨fun _ => rfl, fun _ => task⟩,
      fun bare => absurd (bare.symm.trans task) Bool.false_ne_true, ⟨nofun, nofun⟩, fun _ => task⟩

/-- **The start was there before**, or is shown in the turn. -/
theorem startTime (progress : Progress c s s' x o) {a : Timestamp}
    (start : o.status.startTime = some a) :
    x.startTime = some a ∨ ∃ n, s.backend.looks ≤ n ∧ n < s'.backend.looks ∧ a = c.clock n := by
  cases progress with
  | finished | runs | ends => exact .inl start
  | bare => cases start
  | created _ _ _ late early => exact .inr ⟨_, late, early, (Option.some.inj start).symm⟩

/-- **Start and end stay in order**, if the clock does not fall behind the start in the turn. -/
theorem isInOrder (progress : Progress c s s' x o) (wf : x.IsWellFormed) (inOrder : x.IsInOrder)
    (forward : ∀ a, x.startTime = some a → ∀ n, s.backend.looks ≤ n → n < s'.backend.looks →
      a.le (c.clock n) = true) :
    o.status.IsInOrder := by
  intro a b start finish
  cases progress with
  | finished => exact inOrder a b start finish
  | runs live => cases (wf.endTime_of_live live).symm.trans finish
  | ends _ _ _ _ late early =>
    obtain rfl := Option.some.inj finish
    exact forward a start _ late early
  | bare => cases start
  | created => cases finish

end Progress

/-! ## One turn -/

namespace Engine

variable {τ : Type} {c : Chance} {o : Observer τ} {p : Pass} {s s' : Scene Memory τ}
  {out : Outcome} {x : ItemStatus}

/-! ### No look is taken back -/

theorem Creation.looks_le {result : Except Interruption Outcome}
    (creation : Creation (Memory.engine c o) p x s result s') :
    s.backend.looks ≤ s'.backend.looks := by
  cases creation with
  | unanswered resolved | unresolved resolved => exact Scene.looks_le_resolve resolved
  | dropped resolved drawn put => exact Scene.looks_le_stamped resolved drawn put
  | refused resolved drawn put =>
    exact Nat.le_succ_of_le (Scene.looks_le_stamped resolved drawn put)
  | created resolved drawn put =>
    have stamped := Scene.looks_le_stamped resolved drawn put
    exact Nat.le_trans stamped (Nat.le_add_right _ 2)

theorem Course.looks_le {result : Except Interruption Outcome}
    (course : Course (Memory.engine c o) p x s result s') :
    s.backend.looks ≤ s'.backend.looks := by
  cases course with
  | finished => exact Nat.le_refl _
  | unanswered _ _ fetched | unread _ _ fetched => exact (Scene.idle_fetch fetched).looks
  | read _ _ fetched =>
    exact Nat.le_trans (Scene.idle_fetch fetched).looks (Scene.looks_le_refresh _ _)
  | lost _ _ fetched _ creation =>
    exact Nat.le_trans ((Scene.idle_fetch fetched).trans (Scene.idle_lose _ _)).looks
      creation.looks_le
  | bare _ _ creation => exact creation.looks_le

theorem Turn.looks_le {prior : List ItemStatus} {definition : String}
    {result : Except Interruption Outcome}
    (turn : Turn (Memory.engine c o) p prior definition s result s') :
    s.backend.looks ≤ s'.backend.looks := by
  cases turn with
  | stopped look =>
    obtain rfl := congrArg Prod.snd look
    exact Nat.le_succ _
  | interrupted look course =>
    obtain rfl := congrArg Prod.snd look
    exact Nat.le_trans (Nat.le_succ _) course.looks_le
  | done look course =>
    obtain rfl := congrArg Prod.snd look
    exact Nat.le_trans (Nat.le_succ _)
      (Nat.le_trans course.looks_le (Scene.idle_announceChange _ _ _).looks)

variable (c o p) in
theorem looks_le_visitAll (prior : List ItemStatus) (definitions : List String)
    (r : Reconciliation) (w : World Memory τ) :
    w.backend.looks ≤ ((Memory.engine c o).visitAll p prior r definitions w).2.backend.looks := by
  induction definitions generalizing r w with
  | nil => exact Nat.le_refl _
  | cons definition rest ih =>
    have turn := (Memory.engine c o).turn_turn p prior definition w
    rw [visitAll_cons]
    generalize (Memory.engine c o).turn p prior definition w = t at turn
    obtain ⟨result, w₁⟩ := t
    cases result with
    | ok out => exact Nat.le_trans turn.looks_le (ih _ _)
    | error i =>
      have same := scene_interrupted p definition i
        (r.statuses ++ (definition :: rest).map (statusOrFresh · prior)) w₁
      exact Nat.le_trans turn.looks_le (Nat.le_of_eq (congrArg (·.backend.looks) same.symm))

/-- **A turn that had an outcome lies within its pass.** -/
theorem looks_of_mem_dones {prior : List ItemStatus} {definitions : List String}
    {w : World Memory τ} {d : Done Memory τ}
    (mem : d ∈ (Memory.engine c o).dones p prior definitions w) (r : Reconciliation) :
    w.backend.looks ≤ d.before.backend.looks ∧ d.after.backend.looks ≤
      ((Memory.engine c o).visitAll p prior r definitions w).2.backend.looks := by
  induction definitions generalizing r w with
  | nil => exact absurd mem List.not_mem_nil
  | cons definition rest ih =>
    have turn := (Memory.engine c o).turn_turn p prior definition w
    rw [dones] at mem
    rw [visitAll_cons]
    generalize (Memory.engine c o).turn p prior definition w = t at mem turn
    obtain ⟨result, w₁⟩ := t
    cases result with
    | ok out =>
      obtain rfl | mem := List.mem_cons.1 mem
      · exact ⟨Nat.le_refl _, looks_le_visitAll c o p prior rest _ w₁⟩
      · have within := ih mem (r.record out)
        exact ⟨Nat.le_trans turn.looks_le within.1, within.2⟩
    | error i => exact absurd mem List.not_mem_nil

/-! ### An entry moves on -/

/-- A creation for an entry that is as good as new. -/
theorem Creation.progress (live : x.isTerminal = false)
    (creation : Creation (Memory.engine c o) p (.fresh x.definition) s (.ok out) s') :
    Progress c s s' x out := by
  cases creation with
  | unresolved => exact .bare live
  | refused => exact .bare live
  | @created s₁ s₂ s₃ d draw t resolved drawn put =>
    obtain ⟨rfl, -⟩ := Scene.created_of_put resolved drawn put
    have stamped := Scene.looks_le_stamped resolved drawn put
    have grown := Scene.calls_grow_ask resolved
    obtain rfl := congrArg Prod.snd drawn
    obtain ⟨nothing, -⟩ | made := Scene.ask_cases _ _ put
    · cases nothing
    have made : s₃.calls = s₁.calls ++ [.create (p.stamp d draw)] :=
      (congrArg (fun r => r.2.calls) made).symm
    refine .created (n := s₃.backend.looks) live (p.name_stamp_ne_empty d draw) ?_ ?_ ?_
    · rw [Scene.calls_welcome, made, List.append_assoc,
        List.drop_append_of_le_length grown.length_le]
      simp
    · exact stamped
    · exact Nat.lt_succ_of_le (Nat.le_succ _)

/-- A task that is read back. -/
theorem progress_refresh (wf : x.IsWellFormed) (live : x.isTerminal = false)
    (task : x.hasTask = true) (t : Task) :
    Progress c s (s.refresh (Memory.engine c o) p t x).2 x
      (s.refresh (Memory.engine c o) p t x).1 := by
  have grow : s.calls <+: (s.refresh (Memory.engine c o) p t x).2.calls := by
    rw [Scene.calls_refresh]
    exact List.prefix_append _ _
  have names := Scene.createdNames_refresh (s := s) (e := Memory.engine c o) (p := p) t x
  have never := wf.endTime_of_live live
  unfold Scene.refresh at grow names ⊢
  dsimp only at grow names ⊢
  split
  · next completes =>
    rw [if_pos completes] at grow names
    have terminal := (Bool.and_eq_true_iff.1 completes).1
    rw [ItemStatus.ended, never]
    exact .ends live task ⟨Nat.le_add_right _ 2, grow, names⟩ terminal (Nat.le_refl _)
      (Nat.lt_succ_of_le (Nat.le_succ _))
  · next more =>
    rw [if_neg more] at grow names
    have more : t.state.isTerminal = false := by
      rw [TaskState.completes, Option.any_some, show x.state.isTerminal = false from live] at more
      simpa using more
    exact .runs live task ⟨Nat.le_refl _, grow, names⟩ more

/-- **A visit moves a well-formed entry on.** -/
theorem Course.progress (wf : x.IsWellFormed)
    (course : Course (Memory.engine c o) p x s (.ok out) s') : Progress c s s' x out := by
  cases course with
  | finished terminal => exact .finished terminal ⟨Nat.le_refl _, List.prefix_refl _, rfl⟩
  | read live task fetched =>
    exact (progress_refresh wf live task _).after_idle (Scene.idle_fetch fetched)
  | lost live task fetched gone creation =>
    rw [wf.withoutTask_eq_fresh live] at creation
    exact (creation.progress live).after_idle
      ((Scene.idle_fetch fetched).trans (Scene.idle_lose _ _))
  | bare live bare creation =>
    rw [wf.eq_fresh bare] at creation
    exact creation.progress (x := x) live

/-- **A turn moves a well-formed entry on.** -/
theorem Turn.progress {prior : List ItemStatus} {definition : String}
    (wf : (statusOrFresh definition prior).IsWellFormed)
    (turn : Turn (Memory.engine c o) p prior definition s (.ok out) s') :
    Progress c s s' (statusOrFresh definition prior) out := by
  cases turn with
  | done look course =>
    obtain rfl := congrArg Prod.snd look
    exact ((course.progress wf).after_idle Scene.idle_look).before_idle
      (Scene.idle_announceChange _ _ _)

end Engine

/-! ## Round after round -/

/-- **A round in memory**: what decides is a memory at the mercy of chance. -/
structure MemoryRound (τ : Type) where
  /-- What is left to chance. -/
  chance : Chance
  /-- What watches. -/
  observer : Observer τ
  /-- The tasks and the definitions. -/
  memory : Memory
  /-- The state of what watches. -/
  watcher : τ
  /-- The context in which the spans start. -/
  context : Context
  /-- The item, but for the entries that are kept. -/
  item : PhaseItem

namespace MemoryRound

variable {τ : Type} (r : MemoryRound τ) {group : CheckGroup} {kept : List ItemStatus}

/-- A round in memory is a round. -/
def round : Round Memory τ :=
  ⟨Memory.engine r.chance r.observer, r.memory, r.watcher, r.context, r.item⟩

/-- **Every turn of a round moves its entry on.** -/
theorem progress_of_mem_dones (wf : ∀ x ∈ kept, x.IsWellFormed) {d : Engine.Done Memory τ}
    (mem : d ∈ r.round.dones group kept) :
    Progress r.chance d.before.scene d.after.scene (statusOrFresh d.definition kept) d.outcome :=
  (Engine.turn_of_mem_dones _ _ _ mem).2.progress (isWellFormed_statusOrFresh wf d.definition)

/-- **A round stores well-formed entries.** -/
theorem isWellFormed_stored (wf : ∀ x ∈ kept, x.IsWellFormed) :
    ∀ x ∈ r.round.stored group kept, x.IsWellFormed :=
  (r.round.ending group kept).forall_kept
    (fun {d _ _ _} turn =>
      have start := isWellFormed_statusOrFresh wf d
      (turn.progress start).isWellFormed start)
    (fun d _ => isWellFormed_statusOrFresh wf d)

/-- **After rounds the entries are well formed.** -/
theorem isWellFormed_run (rounds : List (MemoryRound τ)) (wf : ∀ x ∈ kept, x.IsWellFormed) :
    ∀ x ∈ Round.run group kept (rounds.map round), x.IsWellFormed := by
  induction rounds generalizing kept with
  | nil => exact wf
  | cons r rounds ih => exact ih (r.isWellFormed_stored wf)

variable (group kept) in
/-- **The clock shows a time in a round**, at one of its looks. -/
def Shows (a : Timestamp) : Prop :=
  ∃ n, r.memory.looks ≤ n ∧
    n < (r.round.engine.reconcile (r.round.pass group kept) r.round.world).2.backend.looks ∧
    a = r.chance.clock n

/-- What is shown in a turn is shown in its round. -/
theorem shows_of_mem_dones {d : Engine.Done Memory τ} (mem : d ∈ r.round.dones group kept)
    {n : Nat} (late : d.before.backend.looks ≤ n) (early : n < d.after.backend.looks) :
    r.Shows group kept (r.chance.clock n) := by
  have within := Engine.looks_of_mem_dones mem .empty
  refine ⟨n, Nat.le_trans within.1 late, ?_, rfl⟩
  rw [r.round.reconcile_pass]
  exact Nat.lt_of_lt_of_le early within.2

/-- **What the clock shows**, round after round. -/
def times (group : CheckGroup) :
    List ItemStatus → List (MemoryRound τ) → List (Timestamp → Prop)
  | _, [] => []
  | kept, r :: rounds => r.Shows group kept :: times group (r.round.stored group kept) rounds

/-- **The clock never goes back** from a round to a later one. -/
def Forward (times : List (Timestamp → Prop)) : Prop :=
  times.Pairwise fun earlier later => ∀ a b, earlier a → later b → a.le b = true

/-- What is known of the times of an entry: the start was shown so far, and is not after the end. -/
structure Timely (times : List (Timestamp → Prop)) (x : ItemStatus) : Prop where
  /-- The start was shown. -/
  shown : ∀ a, x.startTime = some a → ∃ shows ∈ times, shows a
  /-- It is not after the end. -/
  inOrder : x.IsInOrder

theorem timely_fresh (times : List (Timestamp → Prop)) (definition : String) :
    Timely times (.fresh definition) :=
  ⟨fun _ start => absurd start (by simp [ItemStatus.fresh]),
    fun _ _ start => absurd start (by simp [ItemStatus.fresh])⟩

/-- **One more round keeps the times in order.** -/
theorem timely_stored {earlier : List (Timestamp → Prop)}
    (forward : Forward (earlier ++ [r.Shows group kept])) (wf : ∀ x ∈ kept, x.IsWellFormed)
    (timely : ∀ x ∈ kept, Timely earlier x) :
    ∀ x ∈ r.round.stored group kept, Timely (earlier ++ [r.Shows group kept]) x := by
  have later := (List.pairwise_append.1 forward).2.2
  have widen {x : ItemStatus} (h : Timely earlier x) :
      Timely (earlier ++ [r.Shows group kept]) x :=
    ⟨fun a start => by
      obtain ⟨shows, mem, shown⟩ := h.shown a start
      exact ⟨shows, List.mem_append_left _ mem, shown⟩, h.inOrder⟩
  have before (d : String) := statusOrFresh_of_forall timely (timely_fresh earlier d)
  -- Turn by turn, since what a turn shows has to be placed within the round.
  intro x hx
  rw [r.round.stored_eq, List.mem_append] at hx
  obtain hx | hx := hx
  · obtain ⟨d, mem, rfl⟩ := List.mem_map.1 hx
    have progress := r.progress_of_mem_dones wf mem
    refine ⟨fun a shown => ?_, progress.isInOrder (isWellFormed_statusOrFresh wf d.definition)
      (before d.definition).inOrder fun a shown n late early => ?_⟩
    · obtain old | ⟨n, late, early, rfl⟩ := progress.startTime shown
      · exact (widen (before d.definition)).shown a old
      · exact ⟨_, by simp, r.shows_of_mem_dones mem late early⟩
    · obtain ⟨shows, known, shown⟩ := (before d.definition).shown a shown
      exact later shows known _ (List.mem_singleton_self _) a _ shown
        (r.shows_of_mem_dones mem late early)
  · obtain ⟨d, -, rfl⟩ := List.mem_map.1 hx
    exact widen (before d)

/-- **After rounds the times are in order.** -/
theorem timely_run (earlier : List (Timestamp → Prop)) (rounds : List (MemoryRound τ))
    (forward : Forward (earlier ++ times group kept rounds))
    (wf : ∀ x ∈ kept, x.IsWellFormed) (timely : ∀ x ∈ kept, Timely earlier x) :
    ∀ x ∈ Round.run group kept (rounds.map round),
      Timely (earlier ++ times group kept rounds) x := by
  induction rounds generalizing kept earlier with
  | nil => simpa [times] using timely
  | cons r rounds ih =>
    rw [times, List.append_cons] at forward ⊢
    exact ih (earlier ++ [r.Shows group kept]) forward (r.isWellFormed_stored wf)
      (r.timely_stored (List.pairwise_append.1 forward).1 wf timely)

/-- What the clock shows in one more round comes last. -/
theorem times_concat (rounds : List (MemoryRound τ)) :
    times group kept (rounds ++ [r])
      = times group kept rounds ++ [r.Shows group (Round.run group kept (rounds.map round))] := by
  induction rounds generalizing kept with
  | nil => rfl
  | cons r' rounds ih => simp [times, ih]

end MemoryRound

open MemoryRound in
/-- **Every entry stays well formed.**  After any rounds in memory, from none, one more round hands
over well-formed entries, however it ends.  If the clock never goes back, no entry starts after its
end.  And each entry was either not reached, or its turn moved it on: in particular the
start of an entry whose task was created, for the first time or in place of a lost one, is the time
that the clock showed after the creation. -/
theorem entries_stay_well_formed {τ : Type} (group : CheckGroup) (rounds : List (MemoryRound τ))
    (r : MemoryRound τ) :
    let kept := Round.run group [] (rounds.map round)
    (∀ x ∈ r.round.stored group kept, x.IsWellFormed) ∧
      (Forward (times group [] (rounds ++ [r])) →
        ∀ x ∈ r.round.stored group kept, x.IsInOrder) ∧
      r.round.stored group kept = (r.round.dones group kept).map (·.outcome.status) ++
        ((r.round.declared group).drop (r.round.dones group kept).length).map
          (statusOrFresh · kept) ∧
      ∀ d ∈ r.round.dones group kept,
        Progress r.chance d.before.scene d.after.scene (statusOrFresh d.definition kept)
          d.outcome := by
  intro kept
  have wf : ∀ x ∈ kept, x.IsWellFormed :=
    isWellFormed_run rounds fun x mem => absurd mem List.not_mem_nil
  refine ⟨r.isWellFormed_stored wf, fun forward x mem => ?_, r.round.stored_eq group kept,
    fun d mem => r.progress_of_mem_dones wf mem⟩
  rw [r.times_concat] at forward
  have timely : ∀ x ∈ kept, Timely (times group [] rounds) x :=
    timely_run [] rounds (List.pairwise_append.1 forward).1
      (fun x mem => absurd mem List.not_mem_nil) fun x mem => absurd mem List.not_mem_nil
  exact (r.timely_stored forward wf timely x mem).inOrder

/-- A round in memory in which nothing goes wrong. -/
def Sample.memoryRound (store : TaskStore) : MemoryRound Unit where
  chance := .calm
  observer := .blind
  memory := ⟨store, (DefinitionRegistry.empty "shared").register (definition "smoke"), 0⟩
  watcher := ()
  context := .empty
  item := item ["smoke"]

/-- A task is created, then it is seen finished. -/
theorem entries_stay_well_formed_until_the_end :
    let task := Engine.finishedTask "prod" "pre-smoke-10003"
    let first := Sample.memoryRound .empty
    let second := Sample.memoryRound (TaskStore.empty.create task).2
    let stored := second.round.stored .pre (Round.run .pre [] ([first].map (·.round)))
    stored = [⟨"smoke", "pre-smoke-10003", .succeeded, some default, some default⟩] ∧
      (∀ x ∈ stored, x.IsWellFormed) ∧ ∀ x ∈ stored, x.IsInOrder := by
  intro task first second stored
  have forward : MemoryRound.Forward (MemoryRound.times .pre [] ([first] ++ [second])) := by
    refine List.pairwise_pair.2 ?_
    rintro _ _ ⟨_, -, -, rfl⟩ ⟨_, -, -, rfl⟩
    exact show Timestamp.le default default = true by decide
  have shape := entries_stay_well_formed .pre [first] second
  exact ⟨by decide +kernel, shape.1, shape.2.1 forward⟩

end DeployChecks
