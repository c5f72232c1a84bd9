import DeployChecks.Proofs.Lists
import DeployChecks.Proofs.Shared.Stitches

/-!
# Proofs/Shared/Retelling — the same result under other names

The names of new tasks and the times differ between two runs of the same passes; everything else is
the same.  An outcome is **retold** along a permutation of names `ρ` if what is new in it goes under
the image of its name, and a result is retold if its entries are, one by one.  Outcomes that are
alike are retold, as soon as the names of the new tasks agree (`Outcome.Alike.retold`), and outcomes
that are retold make results that are (`retold_of_outcomes`).  Main definitions: `ItemStatus.Retold`,
`Outcome.Retold`, `Reconciliation.Retold`.
-/

namespace DeployChecks

open List (Forall₂)

/-! ## Stitches by pass -/

/-- **Sorting by pass** moves stitches, and no more. -/
theorem flatMap_ofPass_perm {ι : Type} [DecidableEq ι] {keys : List ι} (distinct : keys.Nodup) :
    ∀ {stitches : List (Stitch ι)}, (∀ q ∈ stitches, q.pass ∈ keys) →
      (keys.flatMap (ofPass · stitches)).Perm stitches
  | [], _ => by simp
  | q :: stitches, covered => by
    rw [List.forall_mem_cons] at covered
    have ih := flatMap_ofPass_perm distinct covered.2
    obtain ⟨before, after, rfl⟩ := List.append_of_mem covered.1
    have others : ∀ i ∈ before ++ after, ofPass i (q :: stitches) = ofPass i stitches := by
      intro i mem
      rw [ofPass_cons, if_neg]
      rintro rfl
      exact (List.nodup_cons.1 (List.perm_middle.nodup_iff.1 distinct)).1 mem
    rw [List.flatMap_append, List.flatMap_cons, ofPass_cons, if_pos rfl,
      List.flatMap_congr fun i mem => others i (List.mem_append_left _ mem),
      List.flatMap_congr fun i mem => others i (List.mem_append_right _ mem)]
    rw [List.flatMap_append, List.flatMap_cons] at ih
    exact List.perm_middle.trans (ih.cons q)

/-! ## Results that are retold -/

/-- **An entry is retold**: it is the same, but for the name of a new task and for the times that
were read off the clock. -/
inductive ItemStatus.Retold (ρ : Equiv.Perm String) : ItemStatus → ItemStatus → Prop
  /-- Nothing is new. -/
  | same {x : ItemStatus} (fixed : ρ x.task = x.task) : Retold ρ x x
  /-- The task is new. -/
  | created (x : ItemStatus) (name : String) (now now' : Timestamp) :
    Retold ρ ({ x with task := name }.started now) ({ x with task := ρ name }.started now')
  /-- The task has ended. -/
  | ended (x : ItemStatus) (now now' : Timestamp) (fixed : ρ x.task = x.task) :
    Retold ρ (x.ended now) (x.ended now')

/-- **A result is retold**: the entries are, and everything else is the same. -/
structure Reconciliation.Retold (ρ : Equiv.Perm String) (r r' : Reconciliation) : Prop where
  /-- The entries. -/
  statuses : Forall₂ (ItemStatus.Retold ρ) r.statuses r'.statuses
  /-- The summary. -/
  summary : r'.summary = r.summary
  /-- The created names. -/
  created : r'.created = r.created
  /-- The completed names. -/
  completed : r'.completed = r.completed
  /-- The skipped names. -/
  skipped : r'.skipped = r.skipped

/-- **Outcomes are retold**: they are alike, and their entries are retold. -/
structure Outcome.Retold (ρ : Equiv.Perm String) (o o' : Outcome) : Prop where
  /-- They are alike. -/
  alike : o.Alike o'
  /-- Their entries are retold. -/
  status : o.status.Retold ρ o'.status

namespace ItemStatus.Retold

variable {ρ : Equiv.Perm String} {x y : ItemStatus}

theorem definition (h : x.Retold ρ y) : y.definition = x.definition := by cases h <;> rfl

theorem state (h : x.Retold ρ y) : y.state = x.state := by cases h <;> rfl

theorem task (h : x.Retold ρ y) : y.task = ρ x.task := by
  cases h with
  | same fixed => exact fixed.symm
  | created => rfl
  | ended _ _ _ fixed => exact fixed.symm

theorem isWatched_iff (h : x.Retold ρ y) (empty : ρ "" = "") : y.IsWatched ↔ x.IsWatched := by
  have task : ρ x.task = "" ↔ x.task = "" := by
    rw [← empty, ρ.injective.eq_iff, empty]
  rw [IsWatched, IsWatched, hasTask_iff, hasTask_iff, isTerminal, h.state, h.task, Ne, task]
  rfl

end ItemStatus.Retold

theorem Outcome.Retold.isCreation {ρ : Equiv.Perm String} {o o' : Outcome} (h : o.Retold ρ o') :
    o'.isCreation = o.isCreation := by
  cases h.alike <;> rfl

theorem SpanKey.rename_forTask (ρ : Equiv.Perm String) (ns task : String) :
    (SpanKey.forTask ns task).rename ρ = .forTask ns (ρ task) := rfl

namespace Outcome.Retold

variable {ρ : Equiv.Perm String} {o o' : Outcome} {p : Pass} (k : SpanKey)

theorem binds_iff (h : o.Retold ρ o') (empty : ρ "" = "") :
    o'.Binds p (k.rename ρ) ↔ o.Binds p k := by
  rw [Binds, Binds, h.status.isWatched_iff empty, h.status.task, ← SpanKey.rename_forTask,
    (SpanKey.rename_injective ρ).eq_iff]

theorem releases_iff (h : o.Retold ρ o')
    (kept : ρ (p.entry o.status.definition).task = (p.entry o.status.definition).task) :
    o'.Releases p (k.rename ρ) ↔ o.Releases p k := by
  rw [Releases, Releases, h.status.definition]
  nth_rewrite 1 [← kept]
  rw [← SpanKey.rename_forTask, (SpanKey.rename_injective ρ).eq_iff]

end Outcome.Retold

/-- Outcomes that are alike are retold, if the names of the new tasks agree and no other name is
changed. -/
theorem Outcome.Alike.retold {ρ : Equiv.Perm String} {o o' : Outcome} (alike : o.Alike o')
    (agree : o.newNames.map ρ = o'.newNames)
    (fixed : o.isCreation = false → ρ o.status.task = o.status.task) : o.Retold ρ o' := by
  refine ⟨alike, ?_⟩
  cases alike with
  | unchanged | running | skipped => exact .same (fixed rfl)
  | completed x now now' => exact .ended x now now' (fixed rfl)
  | created x name name' now now' =>
    obtain rfl : ρ name = name' := (List.cons.inj agree).1
    exact .created x name now now'

theorem Outcome.Alike.length_newNames {o o' : Outcome} (alike : o.Alike o') :
    o.newNames.length = o'.newNames.length := by
  cases alike <;> rfl

namespace Reconciliation

variable {ρ : Equiv.Perm String} {r r' : Reconciliation}

theorem Retold.record (h : r.Retold ρ r') {o o' : Outcome} (outcome : o.Retold ρ o') :
    (r.record o).Retold ρ (r'.record o') := by
  obtain ⟨alike, status⟩ := outcome
  have statuses : Forall₂ (ItemStatus.Retold ρ) (r.record o).statuses (r'.record o').statuses := by
    rw [statuses_record, statuses_record]
    exact List.rel_append h.statuses (.cons status .nil)
  obtain ⟨-, summary, created, completed, skipped⟩ := h
  cases alike with
  | unchanged | running => exact ⟨statuses, summary, created, completed, skipped⟩
  | created x =>
    exact ⟨statuses, summary, congrArg (· ++ [x.definition]) created, completed, skipped⟩
  | completed x =>
    exact ⟨statuses, summary, created, congrArg (· ++ [x.definition]) completed, skipped⟩
  | skipped x reason =>
    exact ⟨statuses, summary, created, completed,
      congrArg (· ++ [SkippedItem.mk x.definition reason]) skipped⟩

/-- A summary tells only of states, and those are the same. -/
theorem Retold.summarized (h : r.Retold ρ r') : r.summarized.Retold ρ r'.summarized := by
  refine ⟨h.statuses, ?_, h.created, h.completed, h.skipped⟩
  have states : r.statuses.map (·.state) = r'.statuses.map (·.state) := by
    rw [← List.forall₂_eq_eq_eq, List.forall₂_map_left_iff, List.forall₂_map_right_iff]
    exact h.statuses.imp fun _ _ entry => entry.state.symm
  exact congrArg StatusSummary.ofStates states.symm

/-- **Results are retold**, if the outcomes are. -/
theorem retold_of_outcomes {os os' : List Outcome} (outcomes : Forall₂ (Outcome.Retold ρ) os os') :
    (os.foldl record empty).summarized.Retold ρ (os'.foldl record empty).summarized :=
  Retold.summarized <| List.rel_foldl (fun _ _ h _ _ outcome => h.record outcome)
    ⟨.nil, rfl, rfl, rfl, rfl⟩ outcomes

end Reconciliation

end DeployChecks
