import DeployChecks.Proofs.Shared.Counts
import DeployChecks.Proofs.Shared.Retelling
import Mathlib.Data.List.Dedup
import Mathlib.Data.List.Flatten

/-!
# Proofs/Shared/Separation — passes with tasks of their own do not meet

Two runs of the same passes, from the same memory, in different orders.  Each stitch is the verdict
on its own entry, so the stitches of a pass are the same in both runs but for new names, and there
is one renaming for all of them (`Fabric.exists_retold`).  With it, the tasks that the runs leave are
the same (`Adds.retold`).  Keys are bound and given up in some order, but every key is touched by one
pass only (`Fabric.pass_eq`): two entries name different tasks, and a new name is nobody else's.  So
only the order within a pass matters, and that is fixed (`Fabric.rebinds_retold`).  Main definitions:
`Fabric`, `OwnTasks`.
-/

namespace DeployChecks

open List (Forall₂)

/-! ## Stitches of a run -/

/-- **What stitches are made of**: each is the verdict on its own entry, and the names of the new
tasks are new. -/
structure Fabric {ι : Type} (m : Memory) (passes : ι → Pass) (used : List String)
    (stitches : List (Stitch ι)) : Prop where
  /-- The verdicts. -/
  verdicts : ∀ q ∈ stitches,
    ((passes q.pass).outlook Memory.contents m).Verdict (q.entry passes) q.outcome
  /-- The new names. -/
  new : AreNew ("" :: used) (newNames stitches)

/-- Only a creation comes with a new task. -/
theorem Outcome.newNames_of_uncreated {o : Outcome} (uncreated : o.isCreation = false) :
    o.newNames = [] := by
  cases o with
  | created => cases uncreated
  | unchanged | refreshed | skipped => rfl

namespace Outlook

variable {v : Outlook} {x : ItemStatus} {o : Outcome}

theorem Grants.task (grants : v.Grants x o) :
    (o.isCreation = true ∧ o.newNames = [o.status.task]) ∨
      (o.isCreation = false ∧ o.status.task = x.task) := by
  cases grants with
  | unresolved | refused => exact .inr ⟨rfl, rfl⟩
  | created => exact .inl ⟨rfl, rfl⟩

/-- **The task of an outcome** is new, or that of the entry, or there is none. -/
theorem Verdict.task (verdict : v.Verdict x o) :
    (o.isCreation = true ∧ o.newNames = [o.status.task]) ∨
      (o.isCreation = false ∧ (o.status.task = x.task ∨ o.status.task = "")) := by
  cases verdict with
  | finished | running | completed => exact .inr ⟨rfl, .inl rfl⟩
  | lost _ _ _ grants => exact grants.task.imp_right fun h => ⟨h.1, .inr h.2⟩
  | bare _ _ grants => exact grants.task.imp_right fun h => ⟨h.1, .inl h.2⟩

end Outlook

section

variable {ι : Type} {passes : ι → Pass} {m : Memory} {used : List String}
  {stitches : List (Stitch ι)} {ρ : Equiv.Perm String} {i : ι}

/-- The task of an entry to start from is known. -/
theorem Memory.Known.entry (known : m.Known passes used) {definition : String}
    (task : ((passes i).entry definition).hasTask = true) :
    ((passes i).entry definition).task ∈ used :=
  known.entries i <| List.mem_map.2
    ⟨_, List.mem_filter.2 ⟨statusOrFresh_mem task, task⟩, rfl⟩

/-- A renaming that keeps known names keeps that of the task of an entry. -/
theorem Memory.Known.fixed (known : m.Known passes used) (fixed : ∀ n ∈ "" :: used, ρ n = n)
    (definition : String) :
    ρ ((passes i).entry definition).task = ((passes i).entry definition).task := by
  refine fixed _ ?_
  cases task : ((passes i).entry definition).hasTask with
  | true => exact List.mem_cons_of_mem _ (known.entry task)
  | false =>
    rw [ItemStatus.hasTask_eq_false_iff.1 task]
    exact List.mem_cons_self

/-- A name that a renaming takes to one that it keeps is kept. -/
theorem eq_of_rename_mem (fixed : ∀ n ∈ used, ρ n = n) {n : String} (mem : ρ n ∈ used) :
    ρ n = n :=
  ρ.injective (fixed _ mem)

/-- A renaming that keeps known names changes no task that is there. -/
theorem Memory.Known.peek_rename (known : m.Known passes used) (keyed : m.store.IsKeyed)
    (fixed : ∀ n ∈ "" :: used, ρ n = n) (k : TaskKey) :
    m.store.peek (k.rename ρ) = (m.store.peek k).map (Task.rename ρ) := by
  have fixed := (List.forall_mem_cons.1 fixed).2
  cases found : m.store.peek k with
  | some t =>
    have name : ρ k.name = k.name := fixed _ (known.stored k (by rw [found]; rfl))
    have own : t.name = k.name := congrArg TaskKey.name (keyed k t found)
    rw [TaskKey.rename_of_fixed name, found, Option.map_some,
      Task.rename_of_fixed (by rw [own, name])]
  | none =>
    refine Option.not_isSome_iff_eq_none.1 fun there => ?_
    have name : ρ k.name = k.name := eq_of_rename_mem fixed (known.stored _ there)
    rw [TaskKey.rename_of_fixed name, found] at there
    cases there

/-- **Passes with tasks of their own**: the entries of different passes name different tasks. -/
def OwnTasks (passes : ι → Pass) : Prop :=
  ∀ i j, i ≠ j → ∀ x ∈ (passes i).item.statuses (passes i).group,
    ∀ y ∈ (passes j).item.statuses (passes j).group, x.hasTask = true → y.hasTask = true →
      TaskKey.mk (passes i).item.ns x.task ≠ ⟨(passes j).item.ns, y.task⟩

namespace Fabric

/-- **A key that a stitch touches** is that of the task of its entry, or that of its new task. -/
theorem touched (fabric : Fabric m passes used stitches) {q : Stitch ι} (mem : q ∈ stitches)
    {k : SpanKey} (touches : q.outcome.Touches (passes q.pass) k) :
    k.ns = (passes q.pass).item.ns ∧
      (((q.entry passes).hasTask = true ∧ k.name = (q.entry passes).task) ∨
        k.name ∈ q.outcome.newNames) := by
  obtain ⟨watched, rfl⟩ | ⟨watched, rfl⟩ := touches
  · refine ⟨rfl, ?_⟩
    obtain ⟨-, names⟩ | ⟨-, task | task⟩ := (fabric.verdicts q mem).task
    · rw [names]
      exact .inr List.mem_cons_self
    · refine .inl ⟨?_, task⟩
      rw [ItemStatus.hasTask, ← task]
      exact watched.2
    · exact absurd task (ItemStatus.hasTask_iff.1 watched.2)
  · exact ⟨rfl, .inl ⟨watched.2, rfl⟩⟩

/-- **A key is touched by one pass only.** -/
theorem pass_eq (fabric : Fabric m passes used stitches) (known : m.Known passes used)
    (own : OwnTasks passes) {k : SpanKey} {q q' : Stitch ι} (mem : q ∈ stitches)
    (mem' : q' ∈ stitches) (touches : q.outcome.Touches (passes q.pass) k)
    (touches' : q'.outcome.Touches (passes q'.pass) k) : q'.pass = q.pass := by
  by_contra other
  have unused {q : Stitch ι} (mem : q ∈ stitches) {name : String}
      (new : name ∈ q.outcome.newNames) : name ∉ used := fun old =>
    fabric.new.unused name (List.mem_flatMap.2 ⟨q, mem, new⟩) (List.mem_cons_of_mem _ old)
  obtain ⟨ns, ⟨task, name⟩ | new⟩ := fabric.touched mem touches
  · obtain ⟨ns', ⟨task', name'⟩ | new'⟩ := fabric.touched mem' touches'
    · refine own _ _ (Ne.symm other) _ (statusOrFresh_mem task) _ (statusOrFresh_mem task') task
        task' (TaskKey.mk.injEq .. ▸ ⟨ns.symm.trans ns', name.symm.trans name'⟩)
    · exact unused mem' new' (name ▸ known.entry task)
  · obtain ⟨-, ⟨task', name'⟩ | new'⟩ := fabric.touched mem' touches'
    · exact unused mem new (name' ▸ known.entry task')
    · have : Std.Symm (Function.onFun List.Disjoint fun q : Stitch ι => q.outcome.newNames) :=
        ⟨fun _ _ disjoint => disjoint.symm⟩
      exact (List.nodup_flatMap.1 fabric.new.nodup).2.forall mem mem'
        (fun same => other (congrArg Stitch.pass same).symm) new new'

end Fabric

end

/-! ## Outcomes of two runs -/

section

variable {ι τ : Type} [DecidableEq ι] {passes : ι → Pass} {m : Memory} {used : List String}
  {stitches stitches' : List (Stitch ι)} {ρ : Equiv.Perm String} {i : ι}

/-- Turns from a memory, with new names, make such stitches. -/
theorem Weaving.fabric {c : Chance} {obs : Observer τ} {left left' : ι → List String}
    {s s' : Scene Memory τ}
    (weaving : Weaving (Memory.engine c obs) passes left s stitches left' s')
    (orderly : c.IsOrderly) (known : m.Known passes used)
    (new : AreNew used (createdNames s'.calls)) (stands : m.Stands s) (blank : s.calls = []) :
    Fabric m passes used stitches := by
  obtain ⟨verdicts, names⟩ := weaving.verdicts orderly known new stands
  have created := (weaving.adds orderly known new stands).created
  rw [names, blank] at new
  refine ⟨verdicts, new.nodup, fun name mem => List.not_mem_cons_of_ne_of_not_mem ?_
    (new.unused name mem)⟩
  obtain ⟨q, mem, own⟩ := List.mem_flatMap.1 mem
  obtain ⟨creation, names⟩ | ⟨uncreated, -⟩ := (verdicts q mem).task
  · obtain ⟨t, draw, -, stamped, -⟩ := created q mem creation
    rw [names, List.mem_singleton] at own
    rw [own, stamped]
    exact (passes q.pass).name_stamp_ne_empty t draw
  · rw [Outcome.newNames_of_uncreated uncreated] at own
    exact absurd own List.not_mem_nil

theorem mem_outcomesOf {o : Outcome} :
    o ∈ outcomesOf i stitches ↔ ∃ q ∈ stitches, q.pass = i ∧ q.outcome = o := by
  rw [outcomesOf, List.mem_map]
  exact exists_congr fun q => by rw [mem_ofPass, and_assoc]

/-- What comes of stitches, sorted by pass. -/
theorem flatMap_outcomesOf_perm {β : Type} (f : ι → Outcome → List β) {keys : List ι}
    (distinct : keys.Nodup) (covered : ∀ q ∈ stitches, q.pass ∈ keys) :
    (keys.flatMap fun i => (outcomesOf i stitches).flatMap (f i)).Perm
      (stitches.flatMap fun q => f q.pass q.outcome) := by
  have moved := (flatMap_ofPass_perm distinct covered).flatMap_right fun q => f q.pass q.outcome
  rw [List.flatMap_assoc] at moved
  convert moved using 3 with i
  rw [outcomesOf, List.flatMap_map]
  exact List.flatMap_congr fun q mem => by rw [(mem_ofPass.1 mem).2]

/-- **The passes that have a turn**, in one run or in the other. -/
theorem exists_passes (stitches stitches' : List (Stitch ι)) :
    ∃ keys : List ι, keys.Nodup ∧ (∀ q ∈ stitches, q.pass ∈ keys) ∧
      ∀ q ∈ stitches', q.pass ∈ keys := by
  refine ⟨((stitches ++ stitches').map (·.pass)).dedup, List.nodup_dedup _, fun q mem => ?_,
    fun q mem => ?_⟩
  · exact List.mem_dedup.2 (List.mem_map_of_mem (List.mem_append_left _ mem))
  · exact List.mem_dedup.2 (List.mem_map_of_mem (List.mem_append_right _ mem))

/-- As much comes of the one stitches as of the others, if that is so for outcomes that are
related. -/
theorem length_flatMap_stitches {β : Type} {R : Outcome → Outcome → Prop}
    {f : ι → Outcome → List β}
    (related : ∀ i, Forall₂ R (outcomesOf i stitches) (outcomesOf i stitches'))
    (lengths : ∀ i o o', R o o' → (f i o).length = (f i o').length) :
    (stitches.flatMap fun q => f q.pass q.outcome).length
      = (stitches'.flatMap fun q => f q.pass q.outcome).length := by
  obtain ⟨keys, distinct, covered, covered'⟩ := exists_passes stitches stitches'
  rw [← (flatMap_outcomesOf_perm f distinct covered).length_eq,
    ← (flatMap_outcomesOf_perm f distinct covered').length_eq]
  exact length_flatMap_eq (R := Eq)
    (fun i _ same => same ▸ length_flatMap_eq (lengths i) (related i)) (List.forall₂_refl keys)

theorem outcomesOf_ofPass (j : ι) :
    outcomesOf j (ofPass i stitches) = if j = i then outcomesOf i stitches else [] := by
  rw [outcomesOf, DeployChecks.ofPass, DeployChecks.ofPass, List.filter_filter]
  split
  · next same =>
    subst same
    simp [outcomesOf, DeployChecks.ofPass]
  · next other =>
    rw [List.filter_eq_nil_iff.2, List.map_nil]
    rintro q -
    simp only [Bool.and_eq_true, decide_eq_true_eq, not_and]
    rintro rfl
    exact other

namespace Fabric

/-- The stitches of one pass. -/
theorem ofPass (fabric : Fabric m passes used stitches) (i : ι) :
    Fabric m passes used (ofPass i stitches) := by
  have part : (newNames (DeployChecks.ofPass i stitches)).Sublist (newNames stitches) :=
    List.filter_sublist.flatMap _
  exact ⟨fun q mem => fabric.verdicts q (mem_ofPass.1 mem).1, fabric.new.nodup.sublist part,
    fun name mem => fabric.new.unused name (part.subset mem)⟩

/-- **The outcomes of one pass are alike** in both runs. -/
theorem alike (fabric : Fabric m passes used stitches) (fabric' : Fabric m passes used stitches')
    (same : (outcomesOf i stitches).map (·.status.definition)
      = (outcomesOf i stitches').map (·.status.definition)) :
    Forall₂ Outcome.Alike (outcomesOf i stitches) (outcomesOf i stitches') := by
  refine forall₂_of_map_eq (fun o mem o' mem' definition => ?_) same
  obtain ⟨q, here, rfl, rfl⟩ := mem_outcomesOf.1 mem
  obtain ⟨q', there, pass, rfl⟩ := mem_outcomesOf.1 mem'
  have verdict := fabric'.verdicts q' there
  rw [Stitch.entry, pass, ← definition] at verdict
  exact (fabric.verdicts q here).alike verdict

/-- A renaming that keeps known names keeps that of the task of an outcome, unless it is new. -/
theorem task_fixed (fabric : Fabric m passes used stitches) (known : m.Known passes used)
    (fixed : ∀ n ∈ "" :: used, ρ n = n) :
    ∀ o ∈ outcomesOf i stitches, o.isCreation = false → ρ o.status.task = o.status.task := by
  intro o mem uncreated
  obtain ⟨q, here, rfl, rfl⟩ := mem_outcomesOf.1 mem
  obtain ⟨creation, -⟩ | ⟨-, task | task⟩ := (fabric.verdicts q here).task
  · exact nomatch creation.symm.trans uncreated
  · rw [task]
    exact known.fixed fixed _
  · rw [task]
    exact fixed _ List.mem_cons_self

/-- **The outcomes of one pass are retold**, along one renaming for all passes. -/
theorem exists_retold (fabric : Fabric m passes used stitches)
    (fabric' : Fabric m passes used stitches') (known : m.Known passes used)
    (same : ∀ i, (outcomesOf i stitches).map (·.status.definition)
      = (outcomesOf i stitches').map (·.status.definition)) :
    ∃ ρ : Equiv.Perm String, (∀ n ∈ "" :: used, ρ n = n) ∧
      ∀ i, Forall₂ (Outcome.Retold ρ) (outcomesOf i stitches) (outcomesOf i stitches') := by
  obtain ⟨keys, distinct, covered, covered'⟩ := exists_passes stitches stitches'
  have sorted := flatMap_outcomesOf_perm (fun _ o => o.newNames) distinct covered
  have sorted' := flatMap_outcomesOf_perm (fun _ o => o.newNames) distinct covered'
  have alike := fun i => fabric.alike fabric' (same i)
  have lengths (i : ι) : ((outcomesOf i stitches).flatMap (·.newNames)).length
      = ((outcomesOf i stitches').flatMap (·.newNames)).length :=
    length_flatMap_eq (fun _ _ alike => alike.length_newNames) (alike i)
  obtain ⟨ρ, fixed, agree⟩ := exists_renaming ("" :: used) (sorted.nodup_iff.2 fabric.new.nodup)
    (sorted'.nodup_iff.2 fabric'.new.nodup)
    (fun n mem => fabric.new.unused n (sorted.mem_iff.1 mem))
    (fun n mem => fabric'.new.unused n (sorted'.mem_iff.1 mem))
  -- the new names agree as a whole, so they agree pass by pass, and outcome by outcome
  have named : ∀ i ∈ keys, ((outcomesOf i stitches).flatMap (·.newNames)).map ρ
      = (outcomesOf i stitches').flatMap (·.newNames) := by
    refine eq_of_flatMap_eq (fun i _ => by rw [List.length_map, lengths i]) ?_
    rw [← List.map_flatMap]
    exact map_eq_of_zip (length_flatMap_eq (R := Eq) (fun i _ same => same ▸ lengths i)
      (List.forall₂_refl keys)) agree
  refine ⟨ρ, fixed, fun i => ?_⟩
  by_cases turns : i ∈ keys
  · have named := named i turns
    rw [List.map_flatMap] at named
    have agreed := forall₂_of_flatMap_eq
      (fun _ _ alike => (List.length_map _).trans alike.length_newNames) (alike i) named
    exact ((List.forall₂_and_left _ _).2 ⟨fabric.task_fixed known fixed, agreed⟩).imp
      fun _ _ h => h.2.1.retold h.2.2 h.1
  · have idle {l : List (Stitch ι)} (covered : ∀ q ∈ l, q.pass ∈ keys) : outcomesOf i l = [] := by
      refine List.eq_nil_iff_forall_not_mem.2 fun o mem => turns ?_
      obtain ⟨q, here, rfl, -⟩ := mem_outcomesOf.1 mem
      exact covered q here
    rw [idle covered, idle covered']
    exact .nil

end Fabric

/-- **Every stitch has its counterpart** in the other run. -/
theorem exists_counterpart {R : Outcome → Outcome → Prop}
    (related : ∀ i, Forall₂ R (outcomesOf i stitches) (outcomesOf i stitches')) :
    ∀ q ∈ stitches, ∃ q' ∈ stitches', q'.pass = q.pass ∧ R q.outcome q'.outcome := by
  intro q mem
  obtain ⟨o, there, same⟩ := exists_of_forall₂ (related q.pass) _
    (mem_outcomesOf.2 ⟨q, mem, rfl, rfl⟩)
  obtain ⟨q', mem', pass, rfl⟩ := mem_outcomesOf.1 there
  exact ⟨q', mem', pass, same⟩

/-! ## The tasks of two runs -/

/-- **The tasks are the same**, renamed. -/
theorem Adds.retold {store store' : TaskStore}
    (adds : Adds passes m.registry stitches m.store store)
    (adds' : Adds passes m.registry stitches' m.store store') (known : m.Known passes used)
    (keyed : m.store.IsKeyed) (fixed : ∀ n ∈ "" :: used, ρ n = n)
    (retold : ∀ i, Forall₂ (Outcome.Retold ρ) (outcomesOf i stitches) (outcomesOf i stitches'))
    (k : TaskKey) : store'.peek (k.rename ρ) = (store.peek k).map (Task.rename ρ) := by
  have keys {q q' : Stitch ι} (pass : q'.pass = q.pass) (retold : q.outcome.Retold ρ q'.outcome) :
      q'.key passes = (q.key passes).rename ρ := by
    rw [Stitch.key, pass, retold.status.task]
    rfl
  by_cases made : ∃ q ∈ stitches, q.outcome.isCreation = true ∧ k = q.key passes
  · obtain ⟨q, mem, creation, rfl⟩ := made
    obtain ⟨q', mem', pass, same⟩ := exists_counterpart retold q mem
    obtain ⟨t, draw, resolved, name, found⟩ := adds.created q mem creation
    obtain ⟨t', draw', resolved', name', found'⟩ :=
      adds'.created q' mem' (same.isCreation.trans creation)
    rw [pass, same.status.definition, resolved] at resolved'
    obtain rfl := Except.ok.inj resolved'
    rw [← keys pass same, found, found', Option.map_some, pass, Pass.rename_stamp]
    rw [← name, ← same.status.task, name', pass]
  · have unmade : ∀ q ∈ stitches, q.outcome.isCreation = true → k ≠ q.key passes :=
      fun q mem creation same => made ⟨q, mem, creation, same⟩
    have unmade' : ∀ q ∈ stitches', q.outcome.isCreation = true →
        k.rename ρ ≠ q.key passes := by
      intro q' mem creation same
      obtain ⟨q, mem, pass, retold⟩ :=
        exists_counterpart (R := flip (Outcome.Retold ρ)) (fun i => (retold i).flip) q' mem
      rw [keys pass.symm retold] at same
      exact unmade q mem (retold.isCreation.symm.trans creation) (TaskKey.rename_injective ρ same)
    rw [adds.others k unmade, adds'.others _ unmade', known.peek_rename keyed fixed]

/-! ## The spans of two runs -/

/-- **The same keys are bound**, renamed. -/
theorem Fabric.rebinds_retold (fabric : Fabric m passes used stitches)
    (known : m.Known passes used) (own : OwnTasks passes) (fixed : ∀ n ∈ "" :: used, ρ n = n)
    (retold : ∀ i, Forall₂ (Outcome.Retold ρ) (outcomesOf i stitches) (outcomesOf i stitches'))
    (k : SpanKey) {bound bound' : Prop} (before : bound ↔ bound') :
    stitches.foldl (fun bound q => q.outcome.Rebinds (passes q.pass) k bound) bound ↔
      stitches'.foldl (fun bound q => q.outcome.Rebinds (passes q.pass) (k.rename ρ) bound)
        bound' := by
  have empty : ρ "" = "" := fixed _ List.mem_cons_self
  have binds {p : Pass} {o o' : Outcome} (same : o.Retold ρ o') :
      o'.Binds p (k.rename ρ) ↔ o.Binds p k := same.binds_iff k empty
  have releases (i : ι) {o o' : Outcome} (same : o.Retold ρ o') :
      o'.Releases (passes i) (k.rename ρ) ↔ o.Releases (passes i) k :=
    same.releases_iff k (known.fixed fixed _)
  have counterpart : ∀ q' ∈ stitches', q'.outcome.Touches (passes q'.pass) (k.rename ρ) →
      ∃ q ∈ stitches, q.pass = q'.pass ∧ q.outcome.Touches (passes q.pass) k := by
    intro q' mem' touches
    obtain ⟨q, mem, pass, same⟩ :=
      exists_counterpart (R := flip (Outcome.Retold ρ)) (fun i => (retold i).flip) q' mem'
    refine ⟨q, mem, pass, ?_⟩
    rw [pass]
    exact touches.imp (binds same).1 (releases _ same).1
  by_cases touched : ∃ q ∈ stitches, q.outcome.Touches (passes q.pass) k
  · obtain ⟨q, mem, touches⟩ := touched
    have alone : ∀ q' ∈ stitches, q'.outcome.Touches (passes q'.pass) k → q'.pass = q.pass :=
      fun q' mem' => fabric.pass_eq known own mem mem' touches
    have alone' : ∀ q' ∈ stitches', q'.outcome.Touches (passes q'.pass) (k.rename ρ) →
        q'.pass = q.pass := by
      intro q' mem' touches'
      obtain ⟨q'', mem'', pass, touches''⟩ := counterpart q' mem' touches'
      rw [← pass, alone q'' mem'' touches'']
    rw [foldl_rebinds_of_pass alone, foldl_rebinds_of_pass alone']
    refine List.rel_foldl (P := Iff) (fun _ _ same o o' outcome => ?_) before (retold q.pass)
    rw [Outcome.Rebinds, Outcome.Rebinds, binds outcome, releases _ outcome, same]
  · have untouched : ∀ q ∈ stitches, ¬q.outcome.Touches (passes q.pass) k :=
      fun q mem touches => touched ⟨q, mem, touches⟩
    have untouched' : ∀ q ∈ stitches', ¬q.outcome.Touches (passes q.pass) (k.rename ρ) := by
      intro q' mem' touches
      obtain ⟨q, mem, -, touches⟩ := counterpart q' mem' touches
      exact untouched q mem touches
    rwa [foldl_rebinds_of_untouched untouched, foldl_rebinds_of_untouched untouched']

end

end DeployChecks
