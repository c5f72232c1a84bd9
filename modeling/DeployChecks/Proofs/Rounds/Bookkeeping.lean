import DeployChecks.Proofs.Host.Entries
import DeployChecks.Proofs.Rounds.Independence

/-!
# Proofs/Rounds/Bookkeeping — what a result lists, against the entries and the store

A pass over the store in memory answers with five things at once: the entries, their summary, and
three lists of names.  All of them are read off the same outcomes, one per declared position.  An
outcome **stands for** something that can be seen without it: the entry before, the entry after, and
the tasks before and after the pass.  One turn says so about the store around it (`Turn.standsFor`);
since a store only grows in a pass, it can be said about the store around the whole pass.  Nothing is
assumed of the entries before: they may repeat names, share tasks, or be finished without a task.
Main definitions: `Outcome.StandsFor`, `Pass.Books`; main statement: `result_keeps_books`.
-/

namespace DeployChecks

/-! ## Stores that grow -/

/-- **Every task that was there is there still**, as it was. -/
def TaskStore.GrowsTo (s s' : TaskStore) : Prop := ∀ k t, s.peek k = some t → s'.peek k = some t

namespace TaskStore.GrowsTo

variable {s s' s'' : TaskStore}

theorem of_tasks (same : s'.tasks = s.tasks) : s.GrowsTo s' := by
  intro k t found
  rwa [peek, same]

theorem trans (h : s.GrowsTo s') (h' : s'.GrowsTo s'') : s.GrowsTo s'' :=
  fun k t found => h' k t (h k t found)

/-- A task under a free key replaces none. -/
theorem of_insert {t : Task} (free : s.peek t.key = none)
    (inserted : s'.tasks = s.tasks.insert t.key t) : s.GrowsTo s' := by
  intro k t' found
  rw [peek, inserted, Keyed.find?_insert]
  split
  · next same =>
    rw [same, free] at found
    cases found
  · exact found

/-- What is not there in the end was not there before. -/
theorem missing (h : s.GrowsTo s') {k : TaskKey} (missing : s'.peek k = none) :
    s.peek k = none := by
  cases found : s.peek k with
  | none => rfl
  | some t => rw [h k t found] at missing; cases missing

end TaskStore.GrowsTo

namespace Engine

variable {τ : Type} {c : Chance} {o : Observer τ} {p : Pass} {prior : List ItemStatus}
  {s s' : Scene Memory τ} {result : Except Interruption Outcome}

theorem Creation.growsTo {x : ItemStatus}
    (creation : Creation (Memory.engine c o) p x s result s') :
    s.backend.store.GrowsTo s'.backend.store := by
  cases creation with
  | unanswered resolved | unresolved resolved =>
    exact .of_tasks (Scene.resolve_cases resolved).1.tasks
  | dropped resolved drawn put =>
    exact .of_tasks (Creation.dropped resolved drawn put).same_of_error.tasks
  | refused resolved drawn put =>
    exact .of_tasks
      ((Scene.same_of_refused resolved drawn put).trans (Scene.same_announce _ _ _ _)).tasks
  | created resolved drawn put =>
    obtain ⟨-, free, tasks, -⟩ := Scene.created_of_put resolved drawn put
    exact (TaskStore.GrowsTo.of_insert free tasks).trans
      (.of_tasks (Scene.same_welcome _ x).tasks)

theorem Course.growsTo {x : ItemStatus} (course : Course (Memory.engine c o) p x s result s') :
    s.backend.store.GrowsTo s'.backend.store := by
  cases course with
  | finished => exact .of_tasks rfl
  | unanswered _ _ fetched | unread _ _ fetched _ =>
    exact .of_tasks (Scene.fetch_cases fetched).1.tasks
  | read _ _ fetched =>
    exact .of_tasks ((Scene.fetch_cases fetched).1.trans (Scene.same_refresh _ _)).tasks
  | lost _ _ fetched _ creation =>
    exact (TaskStore.GrowsTo.of_tasks
      ((Scene.fetch_cases fetched).1.trans (Scene.same_lose _ _)).tasks).trans creation.growsTo
  | bare _ _ creation => exact creation.growsTo

/-- **A turn only adds tasks.** -/
theorem Turn.growsTo {definition : String}
    (turn : Turn (Memory.engine c o) p prior definition s result s') :
    s.backend.store.GrowsTo s'.backend.store := by
  cases turn with
  | stopped look =>
    obtain rfl := congrArg Prod.snd look
    exact .of_tasks rfl
  | interrupted look course =>
    obtain rfl := congrArg Prod.snd look
    exact course.growsTo
  | done look course =>
    obtain rfl := congrArg Prod.snd look
    exact course.growsTo.trans (.of_tasks (Scene.same_announceChange _ _ _).tasks)

end Engine

/-! ## What an outcome stands for -/

namespace Outcome

/-- The task was created. -/
def isCreation : Outcome → Bool
  | created _ => true
  | unchanged _ | refreshed _ _ | skipped _ _ => false

/-- **What an outcome stands for**, in a namespace, given the entries before and the tasks before
and after. -/
inductive StandsFor (ns : String) (prior : List ItemStatus) (before after : TaskStore)
    (definition : String) : Outcome → Prop
  /-- The first entry was finished, and stays as it is. -/
  | unchanged {x : ItemStatus} (found : findStatus definition prior = some x)
      (terminal : x.isTerminal = true) : StandsFor ns prior before after definition (.unchanged x)
  /-- There was no entry or a live one; there is a pending task that was not there before. -/
  | created {x : ItemStatus} {t : Task}
      (live : ∀ y, findStatus definition prior = some y → y.isTerminal = false)
      (task : x.hasTask = true) (free : before.peek ⟨ns, x.task⟩ = none)
      (stored : after.peek ⟨ns, x.task⟩ = some t) (pending : t.state = .pending) :
    StandsFor ns prior before after definition (.created x)
  /-- There was a live entry with a task; it keeps the task, and has its state. -/
  | refreshed {x y : ItemStatus} {t : Task} (found : findStatus definition prior = some y)
      (live : y.isTerminal = false) (task : x.hasTask = true) (same : x.task = y.task)
      (stored : after.peek ⟨ns, x.task⟩ = some t) (state : x.state = t.state)
      (ended : x.isTerminal = true → x.endTime.isSome = true) :
    StandsFor ns prior before after definition (.refreshed x x.isTerminal)
  /-- There was no entry or a live one; there is no task. -/
  | skipped {x : ItemStatus} {reason : SkipReason}
      (live : ∀ y, findStatus definition prior = some y → y.isTerminal = false)
      (bare : x.hasTask = false) : StandsFor ns prior before after definition (.skipped x reason)

namespace StandsFor

variable {ns definition : String} {prior : List ItemStatus}
  {before before' after after' : TaskStore} {o : Outcome}

/-- **What is said about a part of a pass** holds of the whole. -/
theorem widen (h : o.StandsFor ns prior before after definition) (earlier : before'.GrowsTo before)
    (later : after.GrowsTo after') : o.StandsFor ns prior before' after' definition := by
  cases h with
  | unchanged found terminal => exact .unchanged found terminal
  | created live task free stored pending =>
    exact .created live task (earlier.missing free) (later _ _ stored) pending
  | refreshed found live task same stored state ended =>
    exact .refreshed found live task same (later _ _ stored) state ended
  | skipped live bare => exact .skipped live bare

/-- **A position is left alone** exactly if its first entry was finished, and keeps that entry. -/
theorem unchanged_iff (h : o.StandsFor ns prior before after definition) (x : ItemStatus) :
    o = .unchanged x ↔ findStatus definition prior = some x ∧ x.isTerminal = true := by
  cases h with
  | @unchanged y found terminal =>
    refine ⟨fun same => ?_, fun ⟨found', _⟩ => ?_⟩
    · obtain rfl := Outcome.unchanged.inj same
      exact ⟨found, terminal⟩
    · rw [Option.some.inj (found.symm.trans found')]
  | created live | skipped live =>
    exact ⟨fun same => (nomatch same),
      fun ⟨found, terminal⟩ => nomatch (live x found).symm.trans terminal⟩
  | refreshed found live =>
    refine ⟨fun same => (nomatch same), fun ⟨found', terminal⟩ => ?_⟩
    rw [Option.some.inj (found.symm.trans found'), terminal] at live
    cases live

/-- **A position is skipped** exactly if there was no entry or a live one, and there is no task. -/
theorem skipped_iff (h : o.StandsFor ns prior before after definition) :
    o.skip?.isSome = true ↔
      (∀ y, findStatus definition prior = some y → y.isTerminal = false) ∧
        o.status.hasTask = false := by
  cases h with
  | unchanged found terminal =>
    refine ⟨fun h => (nomatch h), fun ⟨live, _⟩ => ?_⟩
    rw [live _ found] at terminal
    cases terminal
  | created _ task =>
    exact ⟨fun h => (nomatch h), fun ⟨_, bare⟩ => nomatch bare.symm.trans task⟩
  | refreshed _ _ task =>
    exact ⟨fun h => (nomatch h), fun ⟨_, bare⟩ => nomatch bare.symm.trans task⟩
  | skipped live bare => exact ⟨fun _ => ⟨live, bare⟩, fun _ => rfl⟩

end StandsFor

end Outcome

/-- A live entry to start from is live wherever it comes from. -/
theorem live_of_statusOrFresh {definition : String} {prior : List ItemStatus}
    (live : (statusOrFresh definition prior).isTerminal = false) (y : ItemStatus)
    (found : findStatus definition prior = some y) : y.isTerminal = false := by
  rwa [statusOrFresh, found] at live

/-- An entry to start from that has a task was found. -/
theorem findStatus_of_task {definition : String} {prior : List ItemStatus}
    (task : (statusOrFresh definition prior).hasTask = true) :
    findStatus definition prior = some (statusOrFresh definition prior) := by
  unfold statusOrFresh at task ⊢
  cases found : findStatus definition prior with
  | none => rw [found] at task; cases task
  | some y => rfl

namespace Engine

variable {τ : Type} {c : Chance} {obs : Observer τ} {p : Pass} {prior : List ItemStatus}
  {definition : String} {s s' : Scene Memory τ} {o : Outcome}

/-! ## One turn -/

theorem Creation.standsFor {x : ItemStatus}
    (creation : Creation (Memory.engine c obs) p x s (.ok o) s') (bare : x.hasTask = false)
    (live : ∀ y, findStatus definition prior = some y → y.isTerminal = false) :
    o.StandsFor p.item.ns prior s.backend.store s'.backend.store definition := by
  cases creation with
  | unresolved resolved => exact .skipped live bare
  | refused resolved drawn put => exact .skipped live bare
  | @created s₁ s₂ s₃ d draw t resolved drawn put =>
    obtain ⟨rfl, free, tasks, -⟩ := Scene.created_of_put resolved drawn put
    refine .created live (t := p.stamp d draw)
      (ItemStatus.hasTask_iff.2 (p.name_stamp_ne_empty d draw)) free ?_ rfl
    have stored : s₃.backend.store.peek (p.stamp d draw).key = some (p.stamp d draw) := by
      rw [TaskStore.peek, tasks, Keyed.find?_insert, if_pos rfl]
    rw [TaskStore.peek, (Scene.same_welcome _ x).tasks]
    exact stored

theorem Course.standsFor
    (course : Course (Memory.engine c obs) p (statusOrFresh definition prior) s (.ok o) s') :
    o.StandsFor p.item.ns prior s.backend.store s'.backend.store definition := by
  cases course with
  | finished terminal => exact .unchanged (findStatus_of_terminal terminal) terminal
  | @read s₁ t live task fetched =>
    have stored : (s₁.refresh (Memory.engine c obs) p t
        (statusOrFresh definition prior)).2.backend.store.peek
          ⟨p.item.ns, (statusOrFresh definition prior).task⟩ = some t := by
      rw [TaskStore.peek, (Scene.same_refresh _ _).tasks, (Scene.fetch_cases fetched).1.tasks]
      exact Scene.found_of_fetch fetched
    have found := findStatus_of_task task
    generalize (s₁.refresh (Memory.engine c obs) p t
      (statusOrFresh definition prior)).2.backend.store = after at stored ⊢
    unfold Scene.refresh
    dsimp only
    rw [ItemStatus.completes_of_live live]
    generalize statusOrFresh definition prior = y at *
    cases terminal : t.state.isTerminal with
    | true =>
      generalize (Scene.sample _ _).1 = now
      have ended : (ItemStatus.ended { y with state := t.state } now).isTerminal = true := terminal
      have refreshed := @Outcome.StandsFor.refreshed _ prior s.backend.store _ definition
        (.ended { y with state := t.state } now) _ _ found live task rfl stored rfl
        fun _ => by simp [ItemStatus.ended]
      rwa [ended] at refreshed
    | false =>
      have running : ({ y with state := t.state } : ItemStatus).isTerminal = false := terminal
      have refreshed := @Outcome.StandsFor.refreshed _ prior s.backend.store _ definition
        { y with state := t.state } _ _ found live task rfl stored rfl
        fun terminal => absurd terminal (ne_true_of_eq_false running)
      rwa [running] at refreshed
  | lost live _ fetched _ creation =>
    refine (creation.standsFor rfl (live_of_statusOrFresh live)).widen ?_ (.of_tasks rfl)
    exact .of_tasks ((Scene.fetch_cases fetched).1.trans (Scene.same_lose _ _)).tasks
  | bare live bare creation => exact creation.standsFor bare (live_of_statusOrFresh live)

/-- **What the outcome of a turn stands for**, given the store before and after the turn. -/
theorem Turn.standsFor (turn : Turn (Memory.engine c obs) p prior definition s (.ok o) s') :
    o.StandsFor p.item.ns prior s.backend.store s'.backend.store o.status.definition := by
  rw [turn.definition]
  cases turn with
  | done look course =>
    obtain rfl := congrArg Prod.snd look
    exact course.standsFor.widen (.of_tasks rfl)
      (.of_tasks (Scene.same_announceChange _ _ _).tasks)

/-! ## A whole pass -/

/-- **What the outcomes stand for**, given the store before and after all turns. -/
theorem Turns.standFor {definitions : List String} {os : List Outcome}
    (turns : Turns (Memory.engine c obs) p prior definitions s os s') :
    s.backend.store.GrowsTo s'.backend.store ∧
      ∀ o ∈ os, o.StandsFor p.item.ns prior s.backend.store s'.backend.store
        o.status.definition := by
  induction turns with
  | nil => exact ⟨.of_tasks rfl, fun _ mem => absurd mem List.not_mem_nil⟩
  | cons turn _ ih =>
    refine ⟨turn.growsTo.trans ih.1, List.forall_mem_cons.2 ⟨?_, fun o mem => ?_⟩⟩
    · exact turn.standsFor.widen (.of_tasks rfl) ih.1
    · exact (ih.2 o mem).widen turn.growsTo (.of_tasks rfl)

/-- **A pass that comes to its end** has gone through all its turns. -/
theorem turns_dones {σ τ : Type} {e : Engine σ τ} {definitions : List String}
    {r a : Reconciliation} {w : World σ τ}
    (ok : (e.visitAll p prior r definitions w).1 = .ok a) :
    Turns e p prior definitions w.scene ((e.dones p prior definitions w).map (·.outcome))
      (e.visitAll p prior r definitions w).2.scene := by
  induction definitions generalizing r w with
  | nil =>
    have empty : Turns e p prior [] w.scene [] w.scene := .nil
    simpa [visitAll, dones, Run.map_apply] using empty
  | cons definition rest ih =>
    have turn := e.turn_turn p prior definition w
    rw [visitAll_cons] at ok ⊢
    rw [dones]
    generalize e.turn p prior definition w = t at turn ok
    obtain ⟨result, w₁⟩ := t
    cases result with
    | error i => simp [Run.map_apply] at ok
    | ok o => exact .cons turn (ih ok)

end Engine

namespace Reconciliation

/-- The created tasks are listed in the order of the outcomes. -/
theorem created_foldl_record (os : List Outcome) (r : Reconciliation) :
    (os.foldl record r).created
      = r.created ++ (os.filter (·.isCreation)).map (·.status.definition) := by
  induction os generalizing r with
  | nil => simp
  | cons o os ih =>
    rw [List.foldl_cons, ih]
    cases o with
    | created x => simp [record, Outcome.isCreation, Outcome.status]
    | refreshed x completed => cases completed <;> simp [record, Outcome.isCreation]
    | _ => simp [record, Outcome.isCreation]

end Reconciliation

/-- **A result in order**: what it lists, against the outcomes of the declared positions, the
entries before, and the store before and after the pass. -/
structure Pass.Books (p : Pass) (before after : TaskStore) (r : Reconciliation)
    (os : List Outcome) : Prop where
  /-- There is one entry per position, left by its outcome. -/
  entries : r.statuses = os.map (·.status)
  /-- The entries are those of the declared names, in order. -/
  names : r.statuses.map (·.definition) = p.item.declared p.group
  /-- The summary is that of the entries. -/
  summary : r.summary = .ofStatuses r.statuses
  /-- All declared names are counted. -/
  total : r.summary.total = (p.item.declared p.group).length
  /-- The created names are those at positions where a task was created. -/
  created : r.created = (os.filter (·.isCreation)).map (·.status.definition)
  /-- The completed names are those at positions where the task was first seen finished. -/
  completed : r.completed = (os.filter (·.isCompletion)).map (·.status.definition)
  /-- The skipped names are those at positions that were left for the next pass. -/
  skipped : r.skipped = os.filterMap (·.skip?)
  /-- Every outcome stands for what became of its position. -/
  standsFor : ∀ o ∈ os,
    o.StandsFor p.item.ns (p.item.statuses p.group) before after o.status.definition
  /-- A position is left alone exactly if its first entry was finished, and keeps that entry. -/
  spared : ∀ o ∈ os, ∀ x, o = .unchanged x ↔
    findStatus o.status.definition (p.item.statuses p.group) = some x ∧ x.isTerminal = true
  /-- A position is skipped exactly if its first entry was missing or live, and it has no task. -/
  left : ∀ o ∈ os, o.skip?.isSome = true ↔
    (∀ x, findStatus o.status.definition (p.item.statuses p.group) = some x →
      x.isTerminal = false) ∧ o.status.hasTask = false

/-- **A result keeps its books.**  A pass over the store in memory comes to its end, whatever chance
does.  Then its result is in order: it has one entry for each declared name, in the order of the
declarations, and the summary of these entries; and the names it lists as created, completed and
skipped are those at the positions with such an outcome, in order.  What a position was left alone,
created, refreshed or skipped for can be seen from its first entry before the pass, its entry after
it, and the store before and after it. -/
theorem result_keeps_books {τ : Type} (c : Chance) (o : Observer τ) (p : Pass)
    (w : World Memory τ) (r : Reconciliation)
    (ok : ((Memory.engine c o).reconcile p w).1 = .ok r) :
    p.Books w.backend.store ((Memory.engine c o).reconcile p w).2.backend.store r
      (((Memory.engine c o).dones p (p.item.statuses p.group) (p.item.declared p.group) w).map
        (·.outcome)) := by
  obtain ⟨-, -, recorded⟩ := Engine.visitAll_of_ok ok
  have turns := Engine.turns_dones ok
  generalize ((Memory.engine c o).dones p (p.item.statuses p.group) (p.item.declared p.group)
    w).map (·.outcome) = os at recorded turns ⊢
  subst recorded
  have statuses : (os.foldl Reconciliation.record .empty).summarized.statuses
      = os.map (·.status) := Reconciliation.statuses_foldl_record os .empty
  have names : (os.map (·.status)).map (·.definition) = p.item.declared p.group := by
    rw [List.map_map]
    exact turns.definitions
  have standsFor := turns.standFor.2
  refine ⟨statuses, statuses ▸ names, rfl, ?_, ?_, ?_, ?_, standsFor,
    fun o mem => (standsFor o mem).unchanged_iff, fun o mem => (standsFor o mem).skipped_iff⟩
  · rw [← names, List.length_map, ← statuses]
    exact (congrArg StatusSummary.total (StatusSummary.ofStates_eq _)).trans (List.length_map _)
  · exact Reconciliation.created_foldl_record os .empty
  · exact Reconciliation.completed_foldl_record os .empty
  · exact Reconciliation.skipped_foldl_record os .empty

namespace Sample

/-- A task that is finished. -/
def soaked : Task := { soak with status := ⟨.succeeded, "", none, none⟩ }

/-- A finished task, and the definitions of two checks. -/
def stocked : Memory where
  store := ⟨({} : Keyed TaskKey Task).insert soaked.key soaked, 0, 0⟩
  registry := ((DefinitionRegistry.empty "shared").register (definition "smoke")).register
    (definition "load")
  looks := 0

end Sample

/-- One name is declared twice, one is unknown, one was finished without a task, one has lost its
task, and one has a task that is found finished. -/
theorem result_keeps_books_of_every_kind :
    let kept : List ItemStatus := [⟨"soak", "pre-soak-10000", .running, none, none⟩,
      ⟨"old", "", .failed, none, none⟩, ⟨"load", "pre-load-9", .running, none, none⟩]
    let p : Pass := ⟨.empty, (Sample.item
      ["smoke", "ghost", "smoke", "old", "load", "soak"]).setStatuses .pre kept, .pre⟩
    let w : World Memory Unit := ⟨Sample.stocked, (), []⟩
    ∃ r os, ((Memory.engine .calm .blind).reconcile p w).1 = .ok r ∧
      r.created = ["smoke", "smoke", "load"] ∧ r.completed = ["soak"] ∧
      r.skipped = [⟨"ghost", .definitionNotFound⟩] ∧
      p.Books w.backend.store ((Memory.engine .calm .blind).reconcile p w).2.backend.store r
        os := by
  intro kept p w
  let smoke (task : String) : ItemStatus := ⟨"smoke", task, .pending, some default, none⟩
  let l : List ItemStatus := [smoke "pre-smoke-10003", .fresh "ghost", smoke "pre-smoke-10016",
    ⟨"old", "", .failed, none, none⟩, ⟨"load", "pre-load-10028", .pending, some default, none⟩,
    ⟨"soak", "pre-soak-10000", .succeeded, none, some default⟩]
  have ok : ((Memory.engine .calm .blind).reconcile p w).1 = .ok ⟨l, .ofStatuses l,
      ["smoke", "smoke", "load"], ["soak"], [⟨"ghost", .definitionNotFound⟩]⟩ := by
    decide +kernel
  exact ⟨_, _, ok, rfl, rfl, rfl, result_keeps_books .calm .blind p w _ ok⟩

end DeployChecks
