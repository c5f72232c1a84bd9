import DeployChecks.Proofs.Engine.Once
import DeployChecks.Proofs.Host.Run

/-!
# Proofs/Rounds/Basic — pass after pass, whatever happens in between

A host keeps the entries of one group of checks and stores what each pass hands it.  In a **round**
an engine passes over the item as it is by then; everything but the entries may be another than in
the round before: the backend and the observer, their states, the context, the declared names.  So
whatever tasks, definitions, spans and clocks do between two passes, the rounds cover it.  Main
definitions: `Round`, `Round.run`, and `Engine.dones` for the turns of a pass that had an outcome;
main statements: `Round.stored_eq`, and `Ending.forall_kept`, which tells of every entry that a pass
hands over what every turn tells of one.
-/

namespace DeployChecks

open Trace (Context)

/-- **A round**: one pass, by any engine in any state, over the item as it is by then. -/
structure Round (σ τ : Type) where
  /-- What decides and what watches. -/
  engine : Engine σ τ
  /-- The state of what decides. -/
  backend : σ
  /-- The state of what watches. -/
  observer : τ
  /-- The context in which the spans start. -/
  context : Context
  /-- The item, but for the entries that are kept. -/
  item : PhaseItem

namespace Round

variable {σ τ : Type} (r : Round σ τ) (group : CheckGroup) (kept : List ItemStatus)

/-- The names that are declared by then. -/
def declared : List String := r.item.declared group

/-- What the pass of a round is about, with the entries that are kept. -/
def pass : Pass := ⟨r.context, r.item.setStatuses group kept, group⟩

/-- The world that the pass begins in. -/
def world : World σ τ := ⟨r.backend, r.observer, []⟩

/-- **The result of a round.** -/
def result : Except PassError Reconciliation :=
  (r.engine.reconcile (r.pass group kept) r.world).1

/-- **The calls of a round.** -/
def calls : List Call := r.engine.callsIn (r.pass group kept) r.world

/-- The calls of a round about one name. -/
def callsAbout (definition : String) : List Call :=
  r.engine.callsAbout (r.pass group kept) r.world definition

/-- **The entries after a round**: what the pass hands over, whole or cut short. -/
def stored : List ItemStatus := keptStatuses (r.result group kept)

/-- **The entries after rounds.** -/
def run (group : CheckGroup) (kept : List ItemStatus) (rounds : List (Round σ τ)) :
    List ItemStatus := rounds.foldl (fun kept r => r.stored group kept) kept

@[simp] theorem run_nil : run group kept ([] : List (Round σ τ)) = kept := rfl

@[simp] theorem run_cons (rounds : List (Round σ τ)) :
    run group kept (r :: rounds) = run group (r.stored group kept) rounds := rfl

theorem run_append (rounds more : List (Round σ τ)) :
    run group kept (rounds ++ more) = run group (run group kept rounds) more := List.foldl_append

@[simp] theorem group_pass : (r.pass group kept).group = group := rfl

@[simp] theorem declared_pass : (r.pass group kept).item.declared group = r.declared group :=
  r.item.declared_withStatus _ group

@[simp] theorem statuses_pass : (r.pass group kept).item.statuses group = kept :=
  r.item.statuses_setStatuses_self group kept

/-- A round gives the declared names their turns. -/
theorem reconcile_pass : r.engine.reconcile (r.pass group kept)
    = r.engine.visitAll (r.pass group kept) kept .empty (r.declared group) := by
  rw [Engine.reconcile, group_pass, declared_pass, statuses_pass]

end Round

namespace Engine

variable {σ τ : Type} {e : Engine σ τ} {p : Pass} {prior : List ItemStatus}
  {definitions : List String} {s s' : Scene σ τ}

/-! ## Turn by turn -/

/-- What every turn says of its outcome, the turns say of theirs. -/
theorem Turns.forall_outcomes {P : Outcome → Prop}
    (turn : ∀ {d s s' o}, Turn e p prior d s (.ok o) s' → P o) {os : List Outcome}
    (turns : Turns e p prior definitions s os s') : ∀ o ∈ os, P o := by
  induction turns with
  | nil => exact fun o ho => absurd ho List.not_mem_nil
  | cons first _ ih => exact List.forall_mem_cons.2 ⟨turn first, ih⟩

/-- **What holds of every entry that a pass hands over**: it holds of the entries that turns leave,
and of those that they start from, in case the pass is cut short. -/
theorem Ending.forall_kept {P : ItemStatus → Prop}
    (turn : ∀ {d s s' o}, Turn e p prior d s (.ok o) s' → P o.status)
    (untouched : ∀ d ∈ definitions, P (statusOrFresh d prior))
    {result : Except PassError Reconciliation}
    (ending : Ending e p prior .empty definitions s result s') :
    ∀ x ∈ keptStatuses result, P x := by
  cases ending with
  | complete turns =>
    simpa [keptStatuses, Reconciliation.statuses_foldl_record, Reconciliation.empty]
      using turns.forall_outcomes turn
  | cut split turns stop =>
    subst split
    intro x hx
    simp only [keptStatuses, Interruption.partialStatuses_passError, Reconciliation.empty,
      List.nil_append, List.mem_append] at hx
    obtain hx | hx := hx
    · obtain ⟨o, ho, rfl⟩ := List.mem_map.1 hx
      exact turns.forall_outcomes turn o ho
    · obtain ⟨d, hd, rfl⟩ := List.mem_map.1 hx
      exact untouched d (List.mem_append_right _ hd)

/-! ## The turns that had an outcome -/

/-- **A turn that had an outcome**, with the worlds before and after it. -/
structure Done (σ τ : Type) where
  /-- The definition. -/
  definition : String
  /-- The world before the turn. -/
  before : World σ τ
  /-- What came of it. -/
  outcome : Outcome
  /-- The world after it. -/
  after : World σ τ

/-- The calls of a turn. -/
def Done.calls (d : Done σ τ) : List Call := d.after.scene.calls.drop d.before.scene.calls.length

/-- **The turns of a pass that had an outcome**, in order: all of them, or all before the one that
stopped the pass. -/
def dones (e : Engine σ τ) (p : Pass) (prior : List ItemStatus) :
    List String → World σ τ → List (Done σ τ)
  | [], _ => []
  | definition :: rest, w =>
    match e.turn p prior definition w with
    | (.ok o, w₁) => ⟨definition, w, o, w₁⟩ :: e.dones p prior rest w₁
    | (.error _, _) => []

variable (e p prior)

theorem turn_of_mem_dones {definitions : List String} {w : World σ τ} {d : Done σ τ}
    (mem : d ∈ e.dones p prior definitions w) :
    d.definition ∈ definitions ∧
      Turn e p prior d.definition d.before.scene (.ok d.outcome) d.after.scene := by
  induction definitions generalizing w with
  | nil => exact absurd mem List.not_mem_nil
  | cons definition rest ih =>
    have turn := e.turn_turn p prior definition w
    rw [dones] at mem
    generalize e.turn p prior definition w = t at turn mem
    obtain ⟨result, w₁⟩ := t
    cases result with
    | ok o =>
      obtain rfl | mem := List.mem_cons.1 mem
      · exact ⟨List.mem_cons_self, turn⟩
      · exact ⟨List.mem_cons_of_mem _ (ih mem).1, (ih mem).2⟩
    | error i => exact absurd mem List.not_mem_nil

/-- The turns go through the definitions in order. -/
theorem definitions_dones (definitions : List String) (w : World σ τ) :
    (e.dones p prior definitions w).map (·.definition) <+: definitions := by
  induction definitions generalizing w with
  | nil => exact List.prefix_refl _
  | cons definition rest ih =>
    rw [dones]
    generalize e.turn p prior definition w = t
    obtain ⟨result, w₁⟩ := t
    cases result with
    | ok o => simpa using ih w₁
    | error i => exact List.nil_prefix

/-- **What a pass hands over**, turn by turn: what the turns leave, then the entries that were not
reached. -/
theorem keptStatuses_visitAll (definitions : List String) (r : Reconciliation) (w : World σ τ) :
    keptStatuses (e.visitAll p prior r definitions w).1
      = r.statuses ++ (e.dones p prior definitions w).map (·.outcome.status) ++
        (definitions.drop (e.dones p prior definitions w).length).map (statusOrFresh · prior) := by
  induction definitions generalizing r w with
  | nil => simp [visitAll, Run.map_apply, dones, keptStatuses]
  | cons definition rest ih =>
    rw [visitAll_cons, dones]
    generalize e.turn p prior definition w = t
    obtain ⟨result, w₁⟩ := t
    cases result with
    | ok o => simp [ih]
    | error i => simp [Run.map_apply, interrupted_fst, keptStatuses]

end Engine

namespace Round

variable {σ τ : Type} (r : Round σ τ) (group : CheckGroup) (kept : List ItemStatus)

/-- The turns of a round that had an outcome. -/
def dones : List (Engine.Done σ τ) :=
  r.engine.dones (r.pass group kept) kept (r.declared group) r.world

/-- **The entries after a round**, turn by turn. -/
theorem stored_eq : r.stored group kept = (r.dones group kept).map (·.outcome.status) ++
    ((r.declared group).drop (r.dones group kept).length).map (statusOrFresh · kept) := by
  have handed := r.engine.keptStatuses_visitAll (r.pass group kept) kept (r.declared group) .empty
    r.world
  rwa [← reconcile_pass] at handed

/-- A round goes one of the listed ways. -/
theorem ending :
    Engine.Ending r.engine (r.pass group kept) kept .empty (r.declared group) r.world.scene
      (r.result group kept)
      (r.engine.reconcile (r.pass group kept) r.world).2.scene := by
  rw [result, reconcile_pass]
  exact r.engine.visitAll_ending _ _ _ _ _

/-- **One entry per declared name, in order**, is what a round stores. -/
theorem definitions_stored : (r.stored group kept).map (·.definition) = r.declared group :=
  (r.ending group kept).definitions

variable {r group kept}

/-- Where no name is declared twice, every stored entry is the one that is found. -/
theorem findStatus_of_mem_stored (distinct : (r.declared group).Nodup) {x : ItemStatus}
    (mem : x ∈ r.stored group kept) : findStatus x.definition (r.stored group kept) = some x := by
  rw [← r.definitions_stored group kept] at distinct
  exact findStatus_eq_some mem rfl fun y hy same => List.inj_on_of_nodup_map distinct hy mem same

end Round

/-- A round in which every creation succeeds, and every task that is asked for is finished. -/
def Sample.lavishRound (names : List String) : Round Unit Unit :=
  ⟨.lavish fun ns name => .ok (Engine.finishedTask ns name), (), (), .empty, item names⟩

end DeployChecks
