import DeployChecks.Proofs.Host.Memory
import DeployChecks.Proofs.Keyed
import DeployChecks.Proofs.Lists
import Mathlib.Data.List.Induction

/-!
# Proofs/Tasks/History — what a store holds, from what it was asked

A task is **held** under a key if its creation succeeded and it was not removed since; what was
reported on it in between tells its status (`TaskStatus.told`), and changes nothing else of it.  A
request concerns the task under one key (`Request.effect`), so the store is looked at key by key.
The times of a task are those of the first reports that matter, even if its state goes backwards
afterwards.  Main statement: `store_follows_history`.
-/

namespace DeployChecks

/-! ## Reports -/

/-- **A report on a task.** -/
structure TaskReport where
  /-- The state. -/
  state : TaskState
  /-- The message. -/
  message : String
  /-- The time. -/
  time : Timestamp

/-- **What reports tell about a status**: the last one its state, the first one other than pending
its start, and the first terminal one its end. -/
def TaskStatus.told (s : TaskStatus) (reports : List TaskReport) : TaskStatus where
  state := (reports.getLast?.map (·.state)).getD s.state
  message := (reports.getLast?.map (·.message)).getD s.message
  startTime := s.startTime.or ((reports.find? (·.state ≠ .pending)).map (·.time))
  endTime := s.endTime.or ((reports.find? (·.state.isTerminal)).map (·.time))

namespace TaskStatus

variable (s : TaskStatus)

@[simp] theorem told_nil : s.told [] = s := by simp [told]

theorem told_append (reports more : List TaskReport) :
    s.told (reports ++ more) = (s.told reports).told more := by
  simp only [told, List.getLast?_append, List.find?_append, mk.injEq]
  refine ⟨?_, ?_, ?_, ?_⟩
  · cases more.getLast? <;> rfl
  · cases more.getLast? <;> rfl
  · rw [Option.map_or, Option.or_assoc]
  · rw [Option.map_or, Option.or_assoc]

/-- One report tells what a report does. -/
theorem told_singleton (r : TaskReport) : s.told [r] = s.report r.state r.message r.time := by
  simp only [told, report, List.getLast?_singleton, List.find?_singleton, mk.injEq]
  refine ⟨rfl, rfl, ?_, ?_⟩ <;> split <;> simp_all

/-- **A task that nothing was known about** is started and ended by the first reports that say
so. -/
theorem told_fresh (reports : List TaskReport) :
    ((fresh.told reports).startTime.isSome ↔ ∃ r ∈ reports, r.state ≠ .pending) ∧
      ((fresh.told reports).endTime.isSome ↔ ∃ r ∈ reports, r.state.isTerminal) ∧
      (fresh.told reports).startTime
        = (reports.find? (·.state ≠ .pending)).map (·.time) ∧
      (fresh.told reports).endTime = (reports.find? (·.state.isTerminal)).map (·.time) := by
  simp [told, fresh]

end TaskStatus

/-- A task after reports. -/
def Task.told (t : Task) (reports : List TaskReport) : Task :=
  { t with status := t.status.told reports }

@[simp] theorem Task.told_nil (t : Task) : t.told [] = t :=
  congrArg (fun status => { t with status }) t.status.told_nil

theorem Task.told_append (t : Task) (reports more : List TaskReport) :
    t.told (reports ++ more) = (t.told reports).told more :=
  congrArg (fun status => { t with status }) (t.status.told_append reports more)

namespace TaskStore

/-! ## Requests -/

/-- **What a store is asked.** -/
inductive Request where
  /-- To put a task in. -/
  | create (t : Task)
  /-- For a task. -/
  | get (k : TaskKey)
  /-- For a task, without counting. -/
  | peek (k : TaskKey)
  /-- To remove a task. -/
  | remove (k : TaskKey)
  /-- To report on a task. -/
  | report (k : TaskKey) (r : TaskReport)
  /-- For the tasks of a definition. -/
  | list (definition : String)

namespace Request

/-- The key that is asked about. -/
def key? : Request → Option TaskKey
  | create t => some t.key
  | get k | peek k | remove k | report k _ => some k
  | list _ => none

/-- It asks for a task. -/
def isGet : Request → Bool
  | get _ => true
  | create _ | peek _ | remove _ | report _ _ | list _ => false

/-- It puts a task in. -/
def isCreate : Request → Bool
  | create _ => true
  | get _ | peek _ | remove _ | report _ _ | list _ => false

/-- What it reports on the task under a key. -/
def reportOn (k : TaskKey) : Request → List TaskReport
  | report k' r => if k' = k then [r] else []
  | create _ | get _ | peek _ | remove _ | list _ => []

/-- **What it makes of the task under a key.** -/
def effect (k : TaskKey) (here : Option Task) : Request → Option Task
  | create t => if t.key = k then here.or (some t) else here
  | report k' r => if k' = k then here.map (·.told [r]) else here
  | remove k' => if k' = k then none else here
  | get _ | peek _ | list _ => here

end Request

/-- The store after a request. -/
def step (s : TaskStore) : Request → TaskStore
  | .create t => (s.create t).2
  | .get k => (s.get k).2
  | .remove k => (s.remove k).2
  | .report k r => (s.report k r.state r.message r.time).2
  | .peek _ | .list _ => s

/-- **The store after a history.** -/
def run (s : TaskStore) (history : List Request) : TaskStore := history.foldl step s

/-- **A task is held** under a key: its creation succeeded, it was not removed since, and its status
is what reports told. -/
def IsHeld (history : List Request) (k : TaskKey) (t : Task) : Prop :=
  ∃ before t₀ after, history = before ++ .create t₀ :: after ∧ t₀.key = k ∧
    ((empty.run before).create t₀).1 = .ok t₀ ∧ .remove k ∉ after ∧
      t = t₀.told (after.flatMap (Request.reportOn k))

variable {s : TaskStore} {q : Request} {history : List Request} {k : TaskKey} {t : Task}

/-! ## One request, key by key -/

theorem peek_create (t : Task) :
    (s.create t).2.peek k = if t.key = k then (s.peek k).or (some t) else s.peek k := by
  cases here : s.peek t.key with
  | none =>
    rw [create_of_free here, peek, Keyed.find?_insert]
    by_cases same : k = t.key
    · subst same
      rw [if_pos rfl, if_pos rfl, here]
      rfl
    · rw [if_neg same, if_neg (Ne.symm same)]
      rfl
  | some old =>
    rw [create_of_taken (by rw [here]; rfl)]
    split
    · next same =>
      subst same
      rw [here]
      exact here
    · rfl

theorem peek_report (k' : TaskKey) (r : TaskReport) :
    (s.report k' r.state r.message r.time).2.peek k
      = if k' = k then (s.peek k).map (·.told [r]) else s.peek k := by
  unfold report
  split
  · next t here =>
    rw [peek, Keyed.find?_insert]
    by_cases same : k = k'
    · subst same
      rw [if_pos rfl, if_pos rfl, here, Option.map_some, Task.told, t.status.told_singleton]
    · rw [if_neg same, if_neg (Ne.symm same)]
      rfl
  · next missing =>
    split
    · next same =>
      subst same
      rw [missing]
      rfl
    · rfl

/-- **A request, seen from a key.** -/
theorem peek_step : (s.step q).peek k = q.effect k (s.peek k) := by
  cases q with
  | create t => exact peek_create t
  | report k' r => exact peek_report k' r
  | remove k' =>
    refine (Keyed.find?_erase _ _ _).trans ?_
    simp only [Request.effect, eq_comm (a := k)]
    rfl
  | get | peek | list => rfl

/-- A request leaves the tasks under other keys as they are. -/
theorem peek_step_of_ne (other : q.key? ≠ some k) : (s.step q).peek k = s.peek k := by
  rw [peek_step]
  cases q with
  | create t => exact if_neg fun same => other (congrArg some same)
  | report k' | remove k' => exact if_neg fun same => other (congrArg some same)
  | get | peek | list => rfl

namespace Request

/-- A task that is not removed stays, with what is reported on it. -/
theorem effect_some (kept : q ≠ .remove k) :
    q.effect k (some t) = some (t.told (q.reportOn k)) := by
  have same : some t = some (t.told []) := congrArg some t.told_nil.symm
  cases q with
  | create t' => simp [effect, reportOn]
  | report k' r =>
    rw [effect, reportOn]
    by_cases about : k' = k
    · rw [if_pos about, if_pos about]
      rfl
    · rw [if_neg about, if_neg about]
      exact same
  | remove k' => exact (if_neg fun about : k' = k => kept (congrArg remove about)).trans same
  | get | peek | list => exact same

/-- Where there was no task, there is one only if it was put in. -/
theorem effect_none_iff : q.effect k none = some t ↔ q = .create t ∧ t.key = k := by
  cases q with
  | create t' =>
    simp only [effect, Option.none_or, create.injEq]
    constructor
    · intro h
      split at h
      · next own => exact ⟨Option.some.inj h, Option.some.inj h ▸ own⟩
      · cases h
    · rintro ⟨rfl, own⟩
      exact if_pos own
  | report k' | remove k' => simp [effect]
  | get | peek | list => simp [effect]

end Request

/-! ## What is held -/

theorem run_concat : s.run (history ++ [q]) = (s.run history).step q := List.foldl_concat ..

/-- Creation succeeds exactly where there is no task. -/
theorem create_ok_iff : (s.create t).1 = .ok t ↔ s.peek t.key = none := by
  cases here : s.peek t.key with
  | none =>
    rw [create_of_free here]
    exact iff_of_true rfl rfl
  | some old =>
    rw [create_of_taken (by rw [here]; rfl)]
    exact iff_of_false nofun nofun

/-- With one more request, a task is held that was held before and is not removed, or one that is
put in. -/
theorem isHeld_concat :
    IsHeld (history ++ [q]) k t ↔
      (∃ t', IsHeld history k t' ∧ q ≠ .remove k ∧ t = t'.told (q.reportOn k)) ∨
        (empty.run history).peek k = none ∧ q = .create t ∧ t.key = k := by
  constructor
  · rintro ⟨before, t₀, after, split, own, created, kept, told⟩
    obtain ⟨rfl, rfl, rfl⟩ | ⟨after, rfl, rfl⟩ := concat_eq_middle split
    · obtain rfl : t = t₀ := told.trans t₀.told_nil
      exact .inr ⟨own ▸ create_ok_iff.1 created, rfl, own⟩
    · rw [List.mem_append, List.mem_singleton, not_or] at kept
      rw [List.flatMap_append, List.flatMap_singleton, Task.told_append] at told
      exact .inl ⟨_, ⟨before, t₀, after, rfl, own, created, kept.1, rfl⟩, Ne.symm kept.2, told⟩
  · rintro (⟨t', ⟨before, t₀, after, rfl, own, created, kept, rfl⟩, last, rfl⟩ |
      ⟨free, rfl, own⟩)
    · refine ⟨before, t₀, after ++ [q], by simp, own, created, ?_, ?_⟩
      · rw [List.mem_append, List.mem_singleton, not_or]
        exact ⟨kept, last.symm⟩
      · rw [List.flatMap_append, List.flatMap_singleton, Task.told_append]
    · exact ⟨history, t, [], rfl, own, create_ok_iff.2 (own ▸ free), List.not_mem_nil,
        t.told_nil.symm⟩

/-- **What is there is what is held.** -/
theorem peek_run : (empty.run history).peek k = some t ↔ IsHeld history k t := by
  -- from the end; the task before the last request may have another status, so it is general
  induction history using List.reverseRecOn generalizing t with
  | nil =>
    refine ⟨nofun, ?_⟩
    rintro ⟨before, t₀, after, split, -⟩
    cases before <;> cases split
  | append_singleton history q ih =>
    rw [run_concat, peek_step, isHeld_concat]
    cases here : (empty.run history).peek k with
    | none =>
      rw [Request.effect_none_iff, or_iff_right]
      · exact (and_iff_right rfl).symm
      · rintro ⟨t', held, -⟩
        rw [← ih, here] at held
        cases held
    | some t' =>
      rw [or_iff_left fun free => nomatch free.1]
      have held : ∀ t'', IsHeld history k t'' ↔ t' = t'' := fun t'' => by
        rw [← ih, here, Option.some.injEq]
      simp only [held, exists_eq_left']
      by_cases kept : q = .remove k
      · subst kept
        simp [Request.effect]
      · rw [Request.effect_some kept, Option.some.injEq, and_iff_right kept, eq_comm]

theorem peek_run_eq_none : (empty.run history).peek k = none ↔ ∀ t, ¬ IsHeld history k t := by
  rw [Option.eq_none_iff_forall_ne_some]
  exact forall_congr' fun t => not_congr peek_run

/-- **A task that is not removed stays**, and reports tell its status. -/
theorem peek_run_of_kept (here : s.peek k = some t) (kept : .remove k ∉ history) :
    (s.run history).peek k = some (t.told (history.flatMap (Request.reportOn k))) := by
  induction history generalizing s t with
  | nil => exact here.trans (congrArg some t.told_nil.symm)
  | cons q history ih =>
    rw [List.mem_cons, not_or] at kept
    rw [List.flatMap_cons, Task.told_append]
    refine ih ?_ kept.2
    rw [peek_step, here, Request.effect_some (Ne.symm kept.1)]

/-- No history puts a task under the key of another. -/
theorem isKeyed_run : (empty.run history).IsKeyed := by
  intro k t here
  obtain ⟨_, _, _, -, own, -, -, rfl⟩ := peek_run.1 here
  exact own

/-! ## What is counted -/

theorem calls_step : (s.step q).getCalls = s.getCalls + (if q.isGet then 1 else 0) ∧
    (s.step q).createCalls = s.createCalls + (if q.isCreate then 1 else 0) := by
  cases q with
  | report k r =>
    rw [step, report]
    split <;> exact ⟨rfl, rfl⟩
  | create t =>
    rw [step, create]
    split <;> exact ⟨rfl, rfl⟩
  | get | peek | remove | list => exact ⟨rfl, rfl⟩

/-- **Every call is counted**, failed ones too. -/
theorem calls_run (s : TaskStore) (history : List Request) :
    (s.run history).getCalls = s.getCalls + history.countP Request.isGet ∧
      (s.run history).createCalls = s.createCalls + history.countP Request.isCreate := by
  induction history generalizing s with
  | nil => exact ⟨rfl, rfl⟩
  | cons q history ih =>
    obtain ⟨gets, creates⟩ := ih (s.step q)
    obtain ⟨get, create⟩ := s.calls_step (q := q)
    rw [List.countP_cons, List.countP_cons]
    exact ⟨gets.trans (by omega), creates.trans (by omega)⟩

/-! ## What is listed -/

theorem mem_ofDefinition (keyed : s.IsKeyed) {definition : String} :
    t ∈ s.ofDefinition definition ↔ t.spec.definition = definition ∧ s.peek t.key = some t := by
  rw [ofDefinition, List.mem_mergeSort, List.mem_filter, Keyed.mem_values, and_comm,
    decide_eq_true_iff]
  refine and_congr_right fun _ => ⟨fun ⟨k, here⟩ => ?_, fun here => ⟨_, here⟩⟩
  rwa [keyed k t here]

/-- **No task is listed twice.** -/
theorem nodup_ofDefinition (keyed : s.IsKeyed) (definition : String) :
    ((s.ofDefinition definition).map Task.key).Nodup := by
  have keys : s.tasks.values.map Task.key = s.tasks.keys := by
    rw [Keyed.values, Keyed.keys, List.map_map]
    exact List.map_congr_left fun e inside => keyed e.1 e.2 (Keyed.find?_of_mem inside)
  have perm := (List.mergeSort_perm (s.tasks.values.filter fun t => t.spec.definition = definition)
    fun a b => keyLe a.key b.key).map Task.key
  refine perm.nodup_iff.2 (List.Nodup.sublist (List.filter_sublist.map _) ?_)
  rw [keys]
  exact s.tasks.nodup

/-! ## A store and its history -/

/-- **A store follows its history.** -/
structure Follows (history : List Request) (s : TaskStore) : Prop where
  /-- Every task stands under its own key. -/
  keyed : s.IsKeyed
  /-- What is seen is what is held. -/
  peek : ∀ k t, s.peek k = some t ↔ IsHeld history k t
  /-- Asking for a task gives what is held, or says what was not found, and changes no task. -/
  get : ∀ k, (∀ t, (s.get k).1 = .ok t ↔ IsHeld history k t) ∧
    ((s.get k).1 = .error (.notFound k.ns k.name) ↔ ∀ t, ¬ IsHeld history k t) ∧
    (s.get k).2.tasks = s.tasks
  /-- Removing a task gives what is held, and takes it out. -/
  remove : ∀ k, (∀ t, (s.remove k).1 = some t ↔ IsHeld history k t) ∧ (s.remove k).2.peek k = none
  /-- A task is put in exactly if none is held under its key. -/
  created : ∀ t, (s.create t).1 = .ok t ↔ ∀ t', ¬ IsHeld history t.key t'
  /-- Otherwise the answer names the key, and no task is changed. -/
  refused : ∀ t t', IsHeld history t.key t' →
    (s.create t).1 = .error (.alreadyExists t.ns t.name) ∧ (s.create t).2.tasks = s.tasks
  /-- A report tells whether there is a task to report on. -/
  reported : ∀ k (r : TaskReport),
    (s.report k r.state r.message r.time).1 = true ↔ ∃ t, IsHeld history k t
  /-- The tasks of a definition are listed, each once, and no others. -/
  listed : ∀ definition, ((s.ofDefinition definition).map Task.key).Nodup ∧
    ∀ t, t ∈ s.ofDefinition definition ↔ t.spec.definition = definition ∧ IsHeld history t.key t
  /-- As long as a task is not removed, it stays the same task, and times that are set stay. -/
  lasting : ∀ k t more, s.peek k = some t → .remove k ∉ more → ∃ status,
    (s.run more).peek k = some { t with status } ∧
      (∀ time, t.status.startTime = some time → status.startTime = some time) ∧
      ∀ time, t.status.endTime = some time → status.endTime = some time
  /-- A request changes no task under another key. -/
  elsewhere : ∀ (q : Request) k, q.key? ≠ some k → (s.step q).peek k = s.peek k
  /-- The requests for a task are counted. -/
  getCalls : s.getCalls = history.countP Request.isGet
  /-- So are the requests to put one in. -/
  createCalls : s.createCalls = history.countP Request.isCreate
  /-- A task that was put in with nothing known about it has been started if a report said so, and
  ended if a report said so, at the time of the first that did. -/
  times : ∀ before t₀ after, history = before ++ .create t₀ :: after →
    ((empty.run before).create t₀).1 = .ok t₀ → t₀.status = .fresh → .remove t₀.key ∉ after →
      ∃ t, s.peek t₀.key = some t ∧
        let reports := after.flatMap (Request.reportOn t₀.key)
        (t.status.startTime.isSome ↔ ∃ r ∈ reports, r.state ≠ .pending) ∧
        (t.status.endTime.isSome ↔ ∃ r ∈ reports, r.state.isTerminal) ∧
        t.status.startTime = (reports.find? (·.state ≠ .pending)).map (·.time) ∧
        t.status.endTime = (reports.find? (·.state.isTerminal)).map (·.time)

/-- **A store is a faithful map with times that are set once**, whatever it was asked. -/
theorem store_follows_history (history : List Request) :
    Follows history (empty.run history) := by
  obtain ⟨gets, creates⟩ := calls_run empty history
  generalize reached : empty.run history = s at gets creates
  have keyed : s.IsKeyed := reached ▸ isKeyed_run
  have held {k t} : s.peek k = some t ↔ IsHeld history k t := reached ▸ peek_run
  have free {k} : s.peek k = none ↔ ∀ t, ¬ IsHeld history k t := reached ▸ peek_run_eq_none
  refine
    { keyed
      peek := fun k t => held
      get := ?_
      remove := fun k => ⟨fun t => held, (Keyed.find?_erase _ _ _).trans (if_pos rfl)⟩
      created := fun t => create_ok_iff.trans free
      refused := ?_
      reported := ?_
      listed := fun definition => ⟨nodup_ofDefinition keyed definition, fun t => ?_⟩
      lasting := ?_
      elsewhere := fun q k => peek_step_of_ne
      getCalls := by rw [gets]; exact Nat.zero_add _
      createCalls := by rw [creates]; exact Nat.zero_add _
      times := ?_ }
  · intro k
    simp only [← held, get]
    cases s.peek k <;> simp
  · intro t t' here
    rw [create_of_taken (by rw [held.2 here]; rfl)]
    exact ⟨rfl, rfl⟩
  · intro k r
    simp only [← held, report]
    cases s.peek k <;> simp
  · rw [mem_ofDefinition keyed, held]
  · intro k t more here kept
    refine ⟨_, peek_run_of_kept here kept, fun time set => ?_, fun time set => ?_⟩
    · rw [TaskStatus.told, set, Option.some_or]
    · rw [TaskStatus.told, set, Option.some_or]
  · intro before t₀ after split created fresh kept
    refine ⟨t₀.told (after.flatMap (Request.reportOn t₀.key)),
      held.2 ⟨before, t₀, after, split, rfl, created, kept, rfl⟩, ?_⟩
    rw [Task.told, fresh]
    exact TaskStatus.told_fresh _

end TaskStore

end DeployChecks
