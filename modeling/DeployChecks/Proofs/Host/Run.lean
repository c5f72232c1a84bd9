import DeployChecks.Proofs.Host.Memory
import Mathlib.Data.List.Nodup

/-!
# Proofs/Host/Run — a host that runs pass after pass

A host keeps one item, lets the engine pass over the checks of one group, and stores what each pass
hands it.  Between the passes whoever runs the tasks reports on them or loses them, definitions
come and go, and the engine is restarted.  Main definitions: `Setup`, `Host`, `Move`, `Host.run`,
`createdNames`.
-/

namespace DeployChecks

open Trace (Context)

/-! ## Items, entries, new tasks -/

namespace PhaseItem

variable (item : PhaseItem) (status : PhaseStatuses) (group : CheckGroup)

@[simp] theorem ns_withStatus : (item.withStatus status).ns = item.ns := by cases item <;> rfl

@[simp] theorem declared_withStatus :
    (item.withStatus status).declared group = item.declared group := by
  cases item <;> cases group <;> rfl

@[simp] theorem ownerReference_withStatus :
    (item.withStatus status).ownerReference = item.ownerReference := by cases item <;> rfl

@[simp] theorem withStatus_status : item.withStatus item.status = item := by cases item <;> rfl

end PhaseItem

namespace ItemStatus

/-- Two entries that have a task have different ones. -/
def Apart (a b : ItemStatus) : Prop := a.hasTask = true → a.task ≠ b.task

theorem hasTask_iff {a : ItemStatus} : a.hasTask = true ↔ a.task ≠ "" := by
  simp [hasTask]

theorem hasTask_eq_false_iff {a : ItemStatus} : a.hasTask = false ↔ a.task = "" := by
  simp [hasTask, String.isEmpty_iff]

theorem Apart.symm {a b : ItemStatus} (h : Apart a b) : Apart b a := fun hb e =>
  h (hasTask_iff.2 (e ▸ hasTask_iff.1 hb)) e.symm

end ItemStatus

/-- The only entry about a definition is the one that is found. -/
theorem findStatus_eq_some {definition : String} {statuses : List ItemStatus} {x : ItemStatus}
    (mem : x ∈ statuses) (about : x.definition = definition)
    (unique : ∀ y ∈ statuses, y.definition = definition → y = x) :
    findStatus definition statuses = some x := by
  obtain ⟨y, hy⟩ : ∃ y, findStatus definition statuses = some y :=
    Option.isSome_iff_exists.1 (List.find?_isSome.2 ⟨x, mem, by simpa using about⟩)
  rw [hy, unique y (List.mem_of_find?_eq_some hy) (by simpa using List.find?_some hy)]

/-- With one entry per name, the entries to start from are all of them. -/
theorem map_statusOrFresh {statuses : List ItemStatus} {declared : List String}
    (names : statuses.map (·.definition) = declared) (distinct : declared.Nodup) :
    declared.map (statusOrFresh · statuses) = statuses := by
  subst names
  rw [List.map_map]
  refine (List.map_congr_left fun s hs => ?_).trans (List.map_id _)
  have found : findStatus s.definition statuses = some s :=
    findStatus_eq_some hs rfl fun t ht same => List.inj_on_of_nodup_map distinct ht hs same
  simp [statusOrFresh, found]

namespace Text

theorem lowerChars_ne_nil {cs : List Char} (h : cs ≠ []) : lowerChars cs ≠ [] := by
  obtain ⟨c, rest, rfl⟩ := List.exists_cons_of_ne_nil h
  unfold lowerChars lowerAfter
  refine List.append_ne_nil_of_left_ne_nil ?_ _
  unfold lowerChar
  split
  · simp
  · split
    · simp
    · split <;> simp

end Text

theorem Task.nameFor_ne_empty (group : CheckGroup) (definition : String) (draw : Nat) :
    nameFor group definition draw ≠ "" := by
  intro h
  have chars : Text.lowerChars _ = [] :=
    (Text.toList_lowercase _).symm.trans (congrArg String.toList h)
  refine Text.lowerChars_ne_nil ?_ chars
  cases group <;> simp [CheckGroup.tag]

/-- **A new task has a name.** -/
theorem Pass.name_stamp_ne_empty (p : Pass) (d : TaskDefinition) (draw : Nat) :
    (p.stamp d draw).name ≠ "" := Task.nameFor_ne_empty p.group d.name draw

/-! ## Hosts -/

/-- **What stays the same in a run.** -/
structure Setup (τ : Type) where
  /-- What watches the passes. -/
  observer : Observer τ
  /-- What is left of its state when the engine is restarted. -/
  renew : τ → τ
  /-- The group of checks. -/
  group : CheckGroup

/-- **A host**, between two passes. -/
structure Host (τ : Type) where
  /-- The item, with the entries that were stored. -/
  item : PhaseItem
  /-- The tasks. -/
  store : TaskStore
  /-- The definitions. -/
  registry : DefinitionRegistry
  /-- The state of the observer. -/
  watcher : τ
  /-- What the passes asked for and logged. -/
  journal : List Entry

/-- **What happens to a host.** -/
inductive Move where
  /-- A pass. -/
  | pass (context : Context) (chance : Chance)
  /-- Whoever runs a task reports on it. -/
  | report (key : TaskKey) (state : TaskState) (message : String) (now : Timestamp)
  /-- A task is lost. -/
  | remove (key : TaskKey)
  /-- A definition is registered. -/
  | define (d : TaskDefinition)
  /-- A definition is unregistered. -/
  | undefine (key : DefinitionKey)
  /-- The engine is restarted. -/
  | restart

/-- Chance does not lie about a lost task. -/
def Move.IsTruthful : Move → Prop
  | pass _ chance => chance.IsTruthful
  | _ => True

/-- **The names of the tasks** that were to be created, in order. -/
def createdNames (calls : List Call) : List String :=
  calls.filterMap fun
    | .create t => some t.name
    | _ => none

@[simp] theorem createdNames_append (l l' : List Call) :
    createdNames (l ++ l') = createdNames l ++ createdNames l' := List.filterMap_append

namespace Host

variable {τ : Type} (u : Setup τ) (h : Host τ)

/-- A host without tasks and definitions. -/
def start (item : PhaseItem) (defaultNamespace : String) (watcher : τ) : Host τ :=
  ⟨item, .empty, .empty defaultNamespace, watcher, []⟩

/-- The entries that are stored. -/
def statuses : List ItemStatus := h.item.statuses u.group

/-- The calls so far. -/
def calls : List Call := h.journal.filterMap Entry.call?

/-- The names that are declared. -/
def declared : List String := h.item.declared u.group

/-- The world that a pass begins in. -/
def world : World Memory τ := ⟨⟨h.store, h.registry, 0⟩, h.watcher, h.journal⟩

/-- **A pass**: its result, and the host after storing the entries. -/
def pass (context : Context) (chance : Chance) : Except PassError Reconciliation × Host τ :=
  let r := (Memory.engine chance u.observer).reconcile ⟨context, h.item, u.group⟩ h.world
  (r.1,
    { item := h.item.setStatuses u.group (keptStatuses r.1)
      store := r.2.backend.store
      registry := r.2.backend.registry
      watcher := r.2.observer
      journal := r.2.journal })

/-- **One move.** -/
def step : Move → Host τ
  | .pass context chance => (h.pass u context chance).2
  | .report key state message now => { h with store := (h.store.report key state message now).2 }
  | .remove key => { h with store := (h.store.remove key).2 }
  | .define d => { h with registry := h.registry.register d }
  | .undefine key => { h with registry := (h.registry.unregister key).2 }
  | .restart => { h with watcher := u.renew h.watcher }

/-- **One move after the other.** -/
def run (moves : List Move) : Host τ := moves.foldl (step u) h

@[simp] theorem run_cons (m : Move) (moves : List Move) :
    h.run u (m :: moves) = (h.step u m).run u moves := rfl

theorem run_append (moves more : List Move) :
    h.run u (moves ++ more) = (h.run u moves).run u more := List.foldl_append

/-! ## A pass, seen from the host -/

/-- What a pass of a host is about. -/
def passOf (context : Context) : Pass := ⟨context, h.item, u.group⟩

/-- The scene that a pass leaves. -/
def sceneAfter (context : Context) (chance : Chance) : Scene Memory τ :=
  ((Memory.engine chance u.observer).reconcile (h.passOf u context) h.world).2.scene

/-- **A pass of a host goes one of the listed ways.** -/
theorem pass_ending (context : Context) (chance : Chance) :
    Engine.Ending (Memory.engine chance u.observer) (h.passOf u context) (h.statuses u) .empty
      (h.declared u) h.world.scene (h.pass u context chance).1 (h.sceneAfter u context chance) :=
  (Memory.engine chance u.observer).reconcile_ending (h.passOf u context) h.world

@[simp] theorem statuses_pass (context : Context) (chance : Chance) :
    (h.pass u context chance).2.statuses u = keptStatuses (h.pass u context chance).1 :=
  PhaseItem.statuses_setStatuses_self _ _ _

/-- **One entry per declared name, in order**, is what a pass stores. -/
theorem definitions_pass (context : Context) (chance : Chance) :
    ((h.pass u context chance).2.statuses u).map (·.definition) = h.declared u := by
  rw [statuses_pass]
  exact (h.pass_ending u context chance).definitions

/-! ## What a run keeps -/

/-- A move changes the entries of the item and nothing else about it. -/
theorem item_step (m : Move) : ∃ status, (h.step u m).item = h.item.withStatus status := by
  cases m with
  | pass context chance => exact ⟨_, rfl⟩
  | _ => exact ⟨h.item.status, (h.item.withStatus_status).symm⟩

@[simp] theorem declared_step (m : Move) : (h.step u m).declared u = h.declared u := by
  obtain ⟨status, e⟩ := h.item_step u m
  rw [declared, e, PhaseItem.declared_withStatus, declared]

@[simp] theorem ns_step (m : Move) : (h.step u m).item.ns = h.item.ns := by
  obtain ⟨status, e⟩ := h.item_step u m
  rw [e, PhaseItem.ns_withStatus]

@[simp] theorem ownerReference_step (m : Move) :
    (h.step u m).item.ownerReference = h.item.ownerReference := by
  obtain ⟨status, e⟩ := h.item_step u m
  rw [e, PhaseItem.ownerReference_withStatus]

theorem declared_run (moves : List Move) : (h.run u moves).declared u = h.declared u := by
  induction moves generalizing h with
  | nil => rfl
  | cons m moves ih => rw [run_cons, ih, declared_step]

theorem ns_run (moves : List Move) : (h.run u moves).item.ns = h.item.ns := by
  induction moves generalizing h with
  | nil => rfl
  | cons m moves ih => rw [run_cons, ih, ns_step]

theorem ownerReference_run (moves : List Move) :
    (h.run u moves).item.ownerReference = h.item.ownerReference := by
  induction moves generalizing h with
  | nil => rfl
  | cons m moves ih => rw [run_cons, ih, ownerReference_step]

/-- Calls are never taken back. -/
theorem calls_grow_step (m : Move) : h.calls <+: (h.step u m).calls := by
  cases m with
  | pass context chance => exact (h.pass_ending u context chance).calls_grow
  | _ => exact List.prefix_refl _

theorem calls_grow_run (moves : List Move) : h.calls <+: (h.run u moves).calls := by
  induction moves generalizing h with
  | nil => exact List.prefix_refl _
  | cons m moves ih => exact (h.calls_grow_step u m).trans (ih (h.step u m))

end Host

/-! ## A small run -/

namespace Sample

/-- The checks before the deployment, watched by nobody. -/
def setup : Setup Unit := ⟨.blind, id, .pre⟩

/-- No task can be read. -/
def unread : Chance := { Chance.calm with get := fun _ => .failed (.unavailable "down") }

/-- Nothing goes wrong, and other numbers are drawn. -/
def redrawn : Chance := { Chance.calm with draw := (· + 500) }

/-- The tasks of two checks are created. -/
def untilCreated : List Move :=
  [.define (definition "smoke"), .define (definition "load"), .pass .empty .calm]

/-- Then a pass fails, one task is lost, and the other one succeeds. -/
def untilLost : List Move :=
  untilCreated ++ [.pass .empty unread, .remove ⟨"prod", "pre-smoke-10003"⟩,
    .report ⟨"prod", "pre-load-10012"⟩ .succeeded "" default]

/-- Then the lost task is replaced. -/
def untilReplaced : List Move := untilLost ++ [.pass .empty redrawn]

theorem isTruthful_untilReplaced : ∀ m ∈ untilReplaced, m.IsTruthful := by
  have failed : unread.IsTruthful := by
    rintro n err ⟨⟩
    rfl
  have redrawn : redrawn.IsTruthful := nofun
  simp [untilReplaced, untilLost, untilCreated, Move.IsTruthful, Chance.isTruthful_calm, failed,
    redrawn]

end Sample

end DeployChecks
