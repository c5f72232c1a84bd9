import DeployChecks.Proofs.Shared.Separation

/-!
# Proofs/Shared/Interleaving — passes may take turns in any order

Passes with tasks of their own share the tasks, the definitions, the spans and whatever takes the
events, and they take turns as a schedule has it, one definition at a time.  Every pass that comes to
its end has the same result as if it were alone, and the same events in the same order; and whatever
the schedule, the same tasks and the same bound spans are left.  The only differences are the names
of new tasks, which are drawn at random, and the times.  The reason is that two runs that visit the
same definitions have stitches that correspond (`Fabric.exists_retold`), and that what they leave can
be told from those (`Adds.retold`, `Fabric.rebinds_retold`).  Main definitions: `Engine.interleave`,
`MayShare`, `Weave.Retold`; main statement: `passes_do_not_disturb_each_other`.
-/

namespace DeployChecks

open List (Forall₂)

/-! ## Runs from a memory -/

section

variable {ι σ τ : Type} [DecidableEq ι]

/-- **Passes take turns**, as a schedule has it. -/
def Engine.interleave (e : Engine σ τ) (passes : ι → Pass) (schedule : List ι) (w : World σ τ) :
    Weave ι σ τ :=
  Weave.run e passes (Weave.start passes w) schedule

/-- The result that the stitches of a pass make. -/
def resultOf (i : ι) (stitches : List (Stitch ι)) : Reconciliation :=
  ((outcomesOf i stitches).foldl Reconciliation.record .empty).summarized

variable {c : Chance} (obs : Observer τ) (passes : ι → Pass) (schedule : List ι)

/-- **Passes that share a memory are told by their stitches**, where nothing goes wrong. -/
theorem Weave.interleave_weaving (calm : c.IsCalm) (w : World Memory τ) :
    let u := (Memory.engine c obs).interleave passes schedule w
    ∃ stitches, Weaving (Memory.engine c obs) passes
        (fun i => (passes i).item.declared (passes i).group) w.scene stitches
        (fun i => (u.strands i).left) u.world.scene ∧
      ∀ i, (u.strands i).answer = .ok (resultOf i stitches) ∧
        (u.strands i).calls = (ofPass i stitches).flatMap (·.calls) ∧
        (outcomesOf i stitches).map (·.status.definition)
          = ((passes i).item.declared (passes i).group).take (schedule.count i) := by
  intro u
  obtain ⟨stitches, weaving, told⟩ := run_weaving (Memory.engine c obs) passes
    (Engine.Turn.not_error_of_calm calm) schedule (v := start passes w) (r := fun _ => .empty)
    fun _ => rfl
  refine ⟨stitches, weaving, fun i => ?_⟩
  obtain ⟨result, calls, left⟩ := told i
  refine ⟨congrArg (Except.map Reconciliation.summarized) result, calls, ?_⟩
  have definitions := weaving.definitions i
  rw [left] at definitions
  exact (List.append_cancel_right ((List.take_append_drop _ _).trans definitions)).symm

end

/-! ## Passes that may share -/

section

variable {ι ε : Type}

/-- **Passes that may share** tasks and spans: each has tasks of its own, and all names in use are
known. -/
structure MayShare (passes : ι → Pass) (m : Memory) (v : Watch ε) (used : List String) : Prop where
  /-- The entries of different passes name different tasks. -/
  own : OwnTasks passes
  /-- The names of tasks are known. -/
  known : m.Known passes used
  /-- The names of bound spans are known. -/
  bound : ∀ k, v.spans.isBound k = true → k.name ∈ used
  /-- Every task stands under its own key. -/
  keyed : m.store.IsKeyed

/-- A renaming that keeps known names changes no key that is bound. -/
theorem MayShare.isBound_rename {passes : ι → Pass} {m : Memory} {v : Watch ε}
    {used : List String} {ρ : Equiv.Perm String} (share : MayShare passes m v used)
    (fixed : ∀ n ∈ used, ρ n = n) (k : SpanKey) :
    v.spans.isBound k = true ↔ v.spans.isBound (k.rename ρ) = true := by
  constructor
  · intro bound
    rwa [SpanKey.rename_of_fixed (fixed _ (share.bound k bound))]
  · intro bound
    rwa [SpanKey.rename_of_fixed (eq_of_rename_mem fixed (share.bound _ bound))] at bound

variable [DecidableEq ι]

/-- **What there is after a run**, as its stitches tell it. -/
structure Weave.ToldBy (u : Weave ι Memory (Watch ε)) (passes : ι → Pass) (m : Memory)
    (v : Watch ε) (used : List String) (schedule : List ι) (stitches : List (Stitch ι)) :
    Prop where
  /-- The stitches. -/
  fabric : Fabric m passes used stitches
  /-- The tasks. -/
  adds : Adds passes m.registry stitches m.store u.world.backend.store
  /-- What the store has counted. -/
  counts : m.store.Counts u.world.backend.store
    (stitches.flatMap fun q => (q.entry passes).wanted).length (newNames stitches).length
  /-- The bound keys. -/
  bound : ∀ k, u.world.observer.spans.isBound k = true ↔
    stitches.foldl (fun bound q => q.outcome.Rebinds (passes q.pass) k bound)
      (v.spans.isBound k = true)
  /-- The results. -/
  answer : ∀ i, (u.strands i).answer = .ok (resultOf i stitches)
  /-- The events. -/
  told : ∀ i, told (u.strands i).calls = (outcomesOf i stitches).flatMap fun o =>
    o.news (passes i).item ((findStatus o.status.definition
      ((passes i).item.statuses (passes i).group)).map (·.state))
  /-- The definitions that had their turn. -/
  definitions : ∀ i, (outcomesOf i stitches).map (·.status.definition)
    = ((passes i).item.declared (passes i).group).take (schedule.count i)

variable {passes : ι → Pass} {m : Memory} {v : Watch ε} {used : List String}

/-- **Every run of passes that may share** is told by stitches, where nothing goes wrong. -/
theorem MayShare.exists_toldBy (share : MayShare passes m v used) {c : Chance} (calm : c.IsCalm)
    (emit : PhaseEvent → Act ε (Except EventError Unit)) (schedule : List ι)
    (fresh : AreNew used (createdNames
      ((Watch.engine c emit).interleave passes schedule ⟨m, v, []⟩).world.scene.calls)) :
    ∃ stitches, ((Watch.engine c emit).interleave passes schedule ⟨m, v, []⟩).ToldBy passes m v
      used schedule stitches := by
  obtain ⟨stitches, weaving, told⟩ :=
    Weave.interleave_weaving (Watch.observer emit) passes schedule calm ⟨m, v, []⟩
  have orderly := calm.isOrderly
  have stands : m.Stands (World.scene (⟨m, v, []⟩ : World Memory (Watch ε))) :=
    ⟨fun _ _ => rfl, rfl⟩
  have fabric := weaving.fabric orderly share.known fresh stands rfl
  refine ⟨stitches, fabric, weaving.adds orderly share.known fresh stands,
    weaving.counts calm fun q mem => (fabric.verdicts q mem).not_isRefused fun _ => rfl,
    weaving.isBound share.keyed, fun i => (told i).1, fun i => ?_, fun i => (told i).2.2⟩
  rw [(told i).2.1, weaving.told_calls]

/-! ## Runs that are retold -/

/-- **A store is retold**: the tasks are the same, renamed, and it was asked as often. -/
structure TaskStore.Retold (ρ : Equiv.Perm String) (s s' : TaskStore) : Prop where
  /-- The tasks. -/
  tasks : ∀ k : TaskKey, s'.peek (k.rename ρ) = (s.peek k).map (Task.rename ρ)
  /-- How often a task was asked for. -/
  getCalls : s'.getCalls = s.getCalls
  /-- How often a task was put in. -/
  createCalls : s'.createCalls = s.createCalls

/-- **A run is retold**: its results, the tasks and the bound keys are. -/
structure Weave.Retold (ρ : Equiv.Perm String) (u u' : Weave ι Memory (Watch ε)) : Prop where
  /-- The results. -/
  answers : ∀ i, ∃ r r', (u.strands i).answer = .ok r ∧ (u'.strands i).answer = .ok r' ∧
    r.Retold ρ r'
  /-- The tasks. -/
  store : u.world.backend.store.Retold ρ u'.world.backend.store
  /-- The bound keys. -/
  bound : ∀ k, u.world.observer.spans.isBound k = true ↔
    u'.world.observer.spans.isBound (k.rename ρ) = true
  /-- The events. -/
  told : ∀ i, told (u.strands i).calls = told (u'.strands i).calls

namespace Weave.ToldBy

variable {u u' : Weave ι Memory (Watch ε)} {schedule schedule' : List ι}
  {stitches stitches' : List (Stitch ι)} {i : ι} {ρ : Equiv.Perm String}

theorem told_eq (told : u.ToldBy passes m v used schedule stitches)
    (told' : u'.ToldBy passes m v used schedule' stitches')
    (retold : Forall₂ (Outcome.Retold ρ) (outcomesOf i stitches) (outcomesOf i stitches')) :
    DeployChecks.told (u.strands i).calls = DeployChecks.told (u'.strands i).calls := by
  rw [told.told, told'.told]
  refine flatMap_eq_of_forall₂ (fun o o' outcome => ?_) retold
  rw [outcome.alike.news, outcome.status.definition]

/-- **Runs that visit the same definitions are retold.** -/
theorem exists_retold (told : u.ToldBy passes m v used schedule stitches)
    (told' : u'.ToldBy passes m v used schedule' stitches') (share : MayShare passes m v used)
    (same : ∀ i, ((passes i).item.declared (passes i).group).take (schedule.count i)
      = ((passes i).item.declared (passes i).group).take (schedule'.count i)) :
    ∃ ρ : Equiv.Perm String, (∀ n ∈ used, ρ n = n) ∧ u.Retold ρ u' := by
  obtain ⟨ρ, fixed, retold⟩ := told.fabric.exists_retold told'.fabric share.known fun i => by
    rw [told.definitions, told'.definitions, same]
  have kept := (List.forall_mem_cons.1 fixed).2
  refine ⟨ρ, kept, ⟨fun i => ⟨_, _, told.answer i, told'.answer i,
    Reconciliation.retold_of_outcomes (retold i)⟩, ⟨?_, ?_, ?_⟩, fun k => ?_, fun i => ?_⟩⟩
  · exact told.adds.retold told'.adds share.known share.keyed fixed retold
  · rw [told'.counts.gets, told.counts.gets]
    refine congrArg (m.store.getCalls + ·) (Eq.symm ?_)
    exact length_flatMap_stitches
      (f := fun i o => ((passes i).entry o.status.definition).wanted) retold
      fun i o o' outcome => by rw [outcome.status.definition]
  · rw [told'.counts.creates, told.counts.creates]
    refine congrArg (m.store.createCalls + ·) (Eq.symm ?_)
    exact length_flatMap_stitches (f := fun _ o => o.newNames) retold
      fun _ _ _ outcome => outcome.alike.length_newNames
  · rw [told.bound, told'.bound]
    exact told.fabric.rebinds_retold share.known share.own fixed retold k
      (share.isBound_rename kept k)
  · exact told.told_eq told' (retold i)

/-- **One pass is retold**, if it visits the same definitions in both runs, whatever the others
do. -/
theorem exists_retold_of_pass (told : u.ToldBy passes m v used schedule stitches)
    (told' : u'.ToldBy passes m v used schedule' stitches') (share : MayShare passes m v used)
    (same : ((passes i).item.declared (passes i).group).take (schedule.count i)
      = ((passes i).item.declared (passes i).group).take (schedule'.count i)) :
    ∃ ρ : Equiv.Perm String, (∀ n ∈ used, ρ n = n) ∧
      (resultOf i stitches).Retold ρ (resultOf i stitches') ∧
      DeployChecks.told (u.strands i).calls = DeployChecks.told (u'.strands i).calls := by
  obtain ⟨ρ, fixed, retold⟩ := (told.fabric.ofPass i).exists_retold (told'.fabric.ofPass i)
    share.known fun j => by
      rw [outcomesOf_ofPass, outcomesOf_ofPass]
      split
      · rw [told.definitions, told'.definitions, same]
      · rfl
  have retold := retold i
  rw [outcomesOf_ofPass, outcomesOf_ofPass, if_pos rfl, if_pos rfl] at retold
  exact ⟨ρ, (List.forall_mem_cons.1 fixed).2, Reconciliation.retold_of_outcomes retold,
    told.told_eq told' retold⟩

end Weave.ToldBy

/-- A pass that runs alone is one of several, of which no other has a turn. -/
theorem Weave.interleave_alone {σ τ : Type} (e : Engine σ τ) (passes : ι → Pass) (i : ι)
    (w : World σ τ) (silent : w.scene.calls = []) :
    let u := e.interleave passes
      (List.replicate ((passes i).item.declared (passes i).group).length i) w
    (u.strands i).answer = (e.reconcile (passes i) w).1 ∧
      u.world.scene = (e.reconcile (passes i) w).2.scene ∧
      (u.strands i).calls = (e.reconcile (passes i) w).2.scene.calls := by
  obtain ⟨answer, scene, calls⟩ := run_alone e passes (i := i)
    ((passes i).item.declared (passes i).group) (v := start passes w) (r := .empty) rfl rfl
  refine ⟨answer, scene, calls.trans ?_⟩
  have trail := e.callsIn_eq (passes i) w
  rw [Engine.callsIn, silent, List.length_nil, List.drop_zero] at trail
  exact trail.symm

/-- **Passes do not disturb each other.**  Any number of passes share the tasks, the definitions, the
spans and what takes the events; each has tasks of its own.  They take turns in any order, one
definition at a time, until all have come to their end, and the names of new tasks are new.  Then
every pass has the result that it has alone, with the same events in the same order.  Any other order
leaves the same tasks and the same bound keys, too.  New names are renamed, and nothing else. -/
theorem passes_do_not_disturb_each_other (emit : PhaseEvent → Act ε (Except EventError Unit))
    (passes : ι → Pass) (m : Memory) (v : Watch ε) (used : List String)
    (share : MayShare passes m v used) (c : Chance) (calm : c.IsCalm) (schedule : List ι)
    (complete : ∀ i, ((passes i).item.declared (passes i).group).length ≤ schedule.count i)
    (fresh : AreNew used (createdNames
      ((Watch.engine c emit).interleave passes schedule ⟨m, v, []⟩).world.scene.calls)) :
    let u := (Watch.engine c emit).interleave passes schedule ⟨m, v, []⟩
    (∀ c' : Chance, c'.IsCalm → ∀ i,
      let alone := (Watch.engine c' emit).reconcile (passes i) ⟨m, v, []⟩
      AreNew used (createdNames alone.2.scene.calls) →
        ∃ ρ : Equiv.Perm String, (∀ n ∈ used, ρ n = n) ∧
          (∃ r r', (u.strands i).answer = .ok r ∧ alone.1 = .ok r' ∧ r.Retold ρ r') ∧
          told (u.strands i).calls = told alone.2.scene.calls) ∧
      ∀ c' : Chance, c'.IsCalm → ∀ schedule' : List ι,
        (∀ i, ((passes i).item.declared (passes i).group).length ≤ schedule'.count i) →
        let u' := (Watch.engine c' emit).interleave passes schedule' ⟨m, v, []⟩
        AreNew used (createdNames u'.world.scene.calls) →
          ∃ ρ : Equiv.Perm String, (∀ n ∈ used, ρ n = n) ∧ u.Retold ρ u' := by
  intro u
  obtain ⟨stitches, told⟩ := share.exists_toldBy calm emit schedule fresh
  constructor
  · intro c' calm' i alone fresh'
    obtain ⟨answer, scene, calls⟩ :=
      Weave.interleave_alone (Watch.engine c' emit) passes i ⟨m, v, []⟩ rfl
    obtain ⟨stitches', told'⟩ := share.exists_toldBy calm' emit
      (List.replicate ((passes i).item.declared (passes i).group).length i) (by rwa [scene])
    obtain ⟨ρ, fixed, retold, same⟩ := told.exists_retold_of_pass told' share (i := i) (by
      rw [List.take_of_length_le (complete i), List.count_replicate_self, List.take_length])
    rw [calls] at same
    exact ⟨ρ, fixed, ⟨_, _, told.answer i, answer.symm.trans (told'.answer i), retold⟩, same⟩
  · intro c' calm' schedule' complete' u' fresh'
    obtain ⟨stitches', told'⟩ := share.exists_toldBy calm' emit schedule' fresh'
    exact told.exists_retold told' share fun i => by
      rw [List.take_of_length_le (complete i), List.take_of_length_le (complete' i)]

end

/-- What holds of all keys holds of each that has an entry. -/
theorem Keyed.forall_of_keys {κ α : Type} [DecidableEq κ] {m : Keyed κ α} {P : κ → Prop}
    (all : ∀ k ∈ m.keys, P k) (k : κ) (there : m.contains k = true) : P k := by
  obtain ⟨e, mem, same⟩ := List.any_eq_true.1 there
  rw [← of_decide_eq_true same]
  exact all _ (List.mem_map_of_mem mem)

namespace Sample

/-- An item with checks before and after the deployment.  One of the former has lost its task, and
one of the latter has a task that is finished by now. -/
def busyItem : PhaseItem :=
  ((PhaseItem.app { AppVersion.bare "shop" "prod" "1" "u1" with
    spec := ⟨"shop", "1", ["smoke", "load"], ["soak", "smoke", "ghost"], {}⟩ }).setStatuses .pre
      [⟨"load", "pre-load-9", .running, none, none⟩]).setStatuses .post
      [⟨"soak", "pre-soak-10000", .running, none, none⟩]

/-- A pass for either group. -/
def bothGroups (group : CheckGroup) : Pass := ⟨.empty, busyItem, group⟩

/-- The span of the lost task is bound. -/
def busyWatch : Watch Unit :=
  { watch with spans := (watch.spans.bind (.forTask "prod" "pre-load-9") .empty []).2 }

/-- Nobody takes the events. -/
def deaf (_ : PhaseEvent) : Act Unit (Except EventError Unit) := Act.silent (pure (.ok ()))

/-- Both groups, in some order. -/
def busyRun (schedule : List CheckGroup) : Weave CheckGroup Memory (Watch Unit) :=
  (Watch.engine .calm deaf).interleave bothGroups schedule ⟨stocked, busyWatch, []⟩

/-- One group alone. -/
def lonelyRun (group : CheckGroup) :
    Except PassError Reconciliation × World Memory (Watch Unit) :=
  (Watch.engine .calm deaf).reconcile (bothGroups group) ⟨stocked, busyWatch, []⟩

theorem mayShare_bothGroups :
    MayShare bothGroups stocked busyWatch ["pre-load-9", "pre-soak-10000"] where
  own := by rintro (_ | _) (_ | _) <;> decide
  known := ⟨by rintro (_ | _) <;> decide, fun k there => by
    rw [TaskStore.peek, ← Keyed.contains_eq] at there
    exact Keyed.forall_of_keys (P := fun k => k.name ∈ ["pre-load-9", "pre-soak-10000"])
      (by decide) k there⟩
  bound := Keyed.forall_of_keys (by decide +kernel)
  keyed := TaskStore.isKeyed_empty.of_insert rfl

end Sample

/-- The checks before and after the deployment of one item, in two orders. -/
theorem passes_do_not_disturb_each_other_for_two_groups :
    let u := Sample.busyRun [.pre, .post, .post, .pre, .post]
    let u' := Sample.busyRun [.post, .post, .post, .pre, .pre]
    createdNames u.world.scene.calls
        = ["pre-smoke-10003", "post-smoke-10018", "pre-load-10029"] ∧
      createdNames u'.world.scene.calls
        = ["post-smoke-10009", "pre-smoke-10022", "pre-load-10033"] ∧
      (∃ ρ : Equiv.Perm String, ρ "pre-load-9" = "pre-load-9" ∧ u.Retold ρ u') ∧
      told (u.strands .post).calls = told (Sample.lonelyRun .post).2.scene.calls := by
  intro u u'
  have names : createdNames u.world.scene.calls
      = ["pre-smoke-10003", "post-smoke-10018", "pre-load-10029"] := by decide +kernel
  have names' : createdNames u'.world.scene.calls
      = ["post-smoke-10009", "pre-smoke-10022", "pre-load-10033"] := by decide +kernel
  have names'' : createdNames (Sample.lonelyRun .post).2.scene.calls = ["post-smoke-10009"] := by
    decide +kernel
  have calm : Chance.calm.IsCalm := Chance.isCalm_calm id
  have fresh : AreNew ["pre-load-9", "pre-soak-10000"] (createdNames u.world.scene.calls) :=
    names ▸ ⟨by decide, by decide⟩
  have fresh' : AreNew ["pre-load-9", "pre-soak-10000"] (createdNames u'.world.scene.calls) :=
    names' ▸ ⟨by decide, by decide⟩
  have fresh'' : AreNew ["pre-load-9", "pre-soak-10000"]
      (createdNames (Sample.lonelyRun .post).2.scene.calls) :=
    names'' ▸ ⟨by decide, by decide⟩
  obtain ⟨apart, orders⟩ := passes_do_not_disturb_each_other Sample.deaf Sample.bothGroups _ _ _
    Sample.mayShare_bothGroups .calm calm [.pre, .post, .post, .pre, .post]
    (by rintro (_ | _) <;> decide) fresh
  obtain ⟨ρ, fixed, retold⟩ := orders .calm calm [.post, .post, .post, .pre, .pre]
    (by rintro (_ | _) <;> decide) fresh'
  obtain ⟨-, -, -, same⟩ := apart .calm calm .post fresh''
  exact ⟨names, names', ⟨ρ, fixed _ (by decide), retold⟩, same⟩

end DeployChecks
