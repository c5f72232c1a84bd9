import DeployChecks.Proofs.Host.Renaming
import Mathlib.Data.List.Dedup

/-!
# Proofs/Host/Resumption — a pass that was cut short is made up for

A pass is cut short by the token or by a task that cannot be read.  The host stores what it is
handed and passes again.  Nothing is lost and nothing is done twice: entries, tasks and spans are
those of one pass that was never cut, but for the names of new tasks and the times.  Main
statement: `resumed_like_uninterrupted`.
-/

namespace DeployChecks

open List (Forall₂)
open Trace (Context)

/-! ## Entries without a task -/

/-- **Without a task, the entry is pending.**  No pass stores an entry that is otherwise. -/
def ItemStatus.IsSound (x : ItemStatus) : Prop := x.hasTask = false → x.state = .pending

theorem ItemStatus.isSound_of_task {x : ItemStatus} (task : x.hasTask = true) : x.IsSound := by
  intro bare
  rw [task] at bare
  cases bare

theorem isSound_statusOrFresh {statuses : List ItemStatus} (sound : ∀ x ∈ statuses, x.IsSound)
    (definition : String) : (statusOrFresh definition statuses).IsSound :=
  statusOrFresh_of_forall sound fun _ => rfl

namespace Engine

variable {τ : Type} {c : Chance} {o : Observer τ} {p : Pass} {prior : List ItemStatus}
  {s s' : Scene Memory τ} {out : Outcome}

theorem Creation.isSound {status : ItemStatus}
    (creation : Creation (Memory.engine c o) p status s (.ok out) s') (sound : status.IsSound) :
    out.status.IsSound := by
  cases creation with
  | unresolved | refused => exact sound
  | created resolved drawn put =>
    obtain ⟨rfl, -⟩ := Scene.created_of_put resolved drawn put
    exact ItemStatus.isSound_of_task (ItemStatus.hasTask_iff.2 (p.name_stamp_ne_empty _ _))

theorem Course.isSound {status : ItemStatus}
    (course : Course (Memory.engine c o) p status s (.ok out) s') (sound : status.IsSound) :
    out.status.IsSound := by
  cases course with
  | finished => exact sound
  | read _ task fetched =>
    refine ItemStatus.isSound_of_task ?_
    rwa [ItemStatus.hasTask, Scene.task_refresh]
  | lost _ _ _ _ creation => exact creation.isSound fun _ => rfl
  | bare _ _ creation => exact creation.isSound sound

theorem Turn.isSound {definition : String}
    (turn : Turn (Memory.engine c o) p prior definition s (.ok out) s')
    (sound : (statusOrFresh definition prior).IsSound) : out.status.IsSound := by
  cases turn with
  | done _ course => exact course.isSound sound

variable (c o p prior) in
/-- **The entries of a pass are sound**, if they were before. -/
def soundEntries : PassInvariant (Memory.engine c o) p prior where
  Good _ := True
  Holds done rest _ := ∀ x ∈ done ++ rest, x.IsSound
  Left done rest _ := ∀ x ∈ done ++ rest, x.IsSound
  good_of_earlier _ _ := trivial
  step := by
    intro done rest definition s s' out _ sound turn x hx
    rw [List.append_assoc] at hx
    have next := turn.isSound (sound _ (by simp))
    rw [List.mem_append, List.mem_append, List.mem_singleton] at hx
    obtain hx | rfl | hx := hx
    · exact sound x (by simp [hx])
    · exact next
    · exact sound x (by simp [hx])
  finish sound := sound
  stop _ sound _ := sound

end Engine

namespace Host

theorem isSound_run {τ : Type} {u : Setup τ} {h : Host τ} (moves : List Move)
    (start : ∀ x ∈ h.statuses u, x.IsSound) : ∀ x ∈ (h.run u moves).statuses u, x.IsSound := by
  induction moves generalizing h with
  | nil => exact start
  | cons m moves ih =>
    refine ih fun x hx => ?_
    cases m with
    | pass context chance =>
      obtain ⟨done, rest, kept, -, sound⟩ :=
        (Engine.soundEntries chance u.observer (h.passOf u context) (h.statuses u)).left_ending
          (h.pass_ending u context chance) trivial fun y hy => by
            obtain ⟨d, -, rfl⟩ := List.mem_map.1 hy
            exact isSound_statusOrFresh start d
      rw [step, statuses_pass, kept] at hx
      exact sound x hx
    | _ => exact start x hx

end Host

/-! ## The work of a pass -/

section

variable {context : Context} {item : PhaseItem} {group : CheckGroup} {status : PhaseStatuses}
  {defs : DefinitionRegistry} {x b : ItemStatus} {d d' : Desk} {names : List String}

/-- No work depends on what is stored in the item. -/
theorem Making.of_withStatus
    (making : Making ⟨context, item.withStatus status, group⟩ defs x d b names d') :
    Making ⟨context, item, group⟩ defs x d b names d' := by
  cases item <;> cases making with
  | unresolved missing => exact .unresolved missing
  | made draw now found => exact .made draw now found

theorem Work.of_withStatus
    (work : Work ⟨context, item.withStatus status, group⟩ defs x d b names d') :
    Work ⟨context, item, group⟩ defs x d b names d' := by
  have ns := item.ns_withStatus status
  cases work with
  | finished terminal => exact .finished terminal
  | running watched found live =>
    dsimp only at found
    rw [ns] at found
    exact .running watched found live
  | completed now watched found ended =>
    dsimp only at found
    rw [ns] at found
    exact .completed now watched found ended
  | lost watched missing making =>
    dsimp only at missing making
    rw [ns] at missing making
    exact .lost watched missing making.of_withStatus
  | bare live bare making => exact .bare live bare making.of_withStatus

theorem Works.of_withStatus {xs bs : List ItemStatus}
    (works : Works ⟨context, item.withStatus status, group⟩ defs xs d bs names d') :
    Works ⟨context, item, group⟩ defs xs d bs names d' := by
  induction works with
  | nil => exact .nil
  | cons work _ ih => exact .cons work.of_withStatus ih

end

namespace Host

variable {ε : Type} {emit : PhaseEvent → Act ε (Except EventError Unit)} {group : CheckGroup}
  {h : Host (Watch ε)} {context : Context} {c c' : Chance} {old : List String}

/-- The tasks and the spans of a host. -/
def desk (h : Host (Watch ε)) : Desk := ⟨h.store.tasks, h.watcher.spans⟩

/-- **A pass that nothing goes wrong in comes to its end.** -/
theorem pass_ok_of_calm {τ : Type} {u : Setup τ} {h : Host τ} (calm : c.IsCalm) :
    ∃ r, (h.pass u context c).1 = .ok r := by
  have ending := h.pass_ending u context c
  cases result : (h.pass u context c).1 with
  | ok r => exact ⟨r, rfl⟩
  | error err =>
    rw [result] at ending
    cases ending with
    | cut _ _ turn => exact absurd turn (Engine.Turn.not_error_of_calm calm)

/-- **A pass that comes to its end** does the work of its entries. -/
theorem works_pass (orderly : c.IsOrderly) {r : Reconciliation} {h' : Host (Watch ε)}
    (complete : h.pass (.watched emit group) context c = (.ok r, h'))
    (named : h.desk.Named (old ++ createdNames h.calls))
    (fresh : (old ++ createdNames h'.calls).Nodup) :
    ∃ names, createdNames h'.calls = createdNames h.calls ++ names ∧
      Works ⟨context, h.item, group⟩ h.registry (h.entries (.watched emit group)) h.desk
        (h'.statuses (.watched emit group)) names h'.desk := by
  have kept := h.statuses_pass (.watched emit group) context c
  have ending := h.pass_ending (.watched emit group) context c
  obtain rfl := (congrArg Prod.snd complete).symm
  rw [complete] at ending kept
  cases ending with
  | @complete outs _ turns =>
    obtain ⟨names, grown, -, works⟩ := Engine.Turns.works orderly turns named fresh
    simp only [keptStatuses, Reconciliation.statuses_summarized,
      Reconciliation.statuses_foldl_record, Reconciliation.empty, List.nil_append] at kept
    rw [complete, kept]
    exact ⟨names, grown, works⟩

/-- **A pass that is cut short** has done the work of the entries before the cut, and stores the
others as they were.  The task of the entry at the cut may be lost already. -/
theorem works_cut (orderly : c.IsOrderly) {err : PassError} {h' : Host (Watch ε)}
    (cut : h.pass (.watched emit group) context c = (.error err, h'))
    (named : h.desk.Named (old ++ createdNames h.calls))
    (fresh : (old ++ createdNames h'.calls).Nodup) :
    ∃ before x after bs names d, h.entries (.watched emit group) = before ++ x :: after ∧
      h'.statuses (.watched emit group) = bs ++ x :: after ∧
      createdNames h.calls ++ names <+: createdNames h'.calls ∧ h'.registry = h.registry ∧
      Works ⟨context, h.item, group⟩ h.registry before h.desk bs names d ∧
      (h'.desk = d ∨ (x.IsWatched ∧ d.tasks.find? ⟨h.item.ns, x.task⟩ = none ∧
        h'.desk = d.vanish h.item.ns x.task)) := by
  have kept := h.statuses_pass (.watched emit group) context c
  have ending := h.pass_ending (.watched emit group) context c
  obtain rfl := (congrArg Prod.snd cut).symm
  rw [cut] at ending kept
  cases ending with
  | @cut before definition after outs s₁ _ i split turns turn =>
    have earlier := turn.calls_grow
    obtain ⟨names, grown, registry, works⟩ := Engine.Turns.works orderly turns named
      (Engine.nodup_names_of_earlier earlier fresh)
    refine ⟨_, statusOrFresh definition (h.statuses (.watched emit group)),
      after.map (statusOrFresh · (h.statuses (.watched emit group))), _, names, s₁.desk, ?_, ?_, ?_,
      ?_, works, turn.desk_of_error orderly⟩
    · rw [Host.entries, split, List.map_append, List.map_cons]
    · rw [cut, kept, keptStatuses, Interruption.partialStatuses_passError]
      rfl
    · rw [show createdNames h.calls ++ names = createdNames s₁.calls from grown.symm]
      exact earlier.filterMap _
    · exact turn.same_of_error.registry.trans registry

/-- **A pass that is cut short and made again** does the work of the entries from before it. -/
theorem works_resumed (distinct : (h.declared (.watched emit group)).Nodup)
    (entries : Distinct (h.statuses (.watched emit group)) (old ++ createdNames h.calls))
    (sound : ∀ x ∈ h.statuses (.watched emit group), x.IsSound)
    (named : h.desk.Named (old ++ createdNames h.calls)) (orderly : c.IsOrderly)
    (orderly' : c'.IsOrderly) {err : PassError} {r : Reconciliation} {h₁ h₂ : Host (Watch ε)}
    (cut : h.pass (.watched emit group) context c = (.error err, h₁))
    (complete : h₁.pass (.watched emit group) context c' = (.ok r, h₂))
    (fresh : (old ++ createdNames h₂.calls).Nodup) :
    ∃ names, (createdNames h.calls ++ names).Sublist (createdNames h₂.calls) ∧
      Works ⟨context, h.item, group⟩ h.registry (h.entries (.watched emit group)) h.desk
        (h₂.statuses (.watched emit group)) names h₂.desk := by
  have passed : h₁ = (h.pass (.watched emit group) context c).2 := by rw [cut]
  have later := h₁.calls_grow_step (.watched emit group) (.pass context c')
  rw [step, complete] at later
  have fresh₁ := Engine.nodup_names_of_earlier later fresh
  obtain ⟨before, x, after, bs, names, d, visited, stored, earlier, registry, first, lost⟩ :=
    works_cut orderly cut named fresh₁
  -- what the first pass leaves is known, and its entries are distinct
  have known := first.named named
  rw [List.append_assoc] at known
  have sub : old ++ (createdNames h.calls ++ names) ⊆ old ++ createdNames h₁.calls :=
    List.append_subset.2 ⟨List.subset_append_left _ _,
      List.Subset.trans earlier.subset (List.subset_append_right _ _)⟩
  have named₁ : h₁.desk.Named (old ++ createdNames h₁.calls) := by
    obtain desk | ⟨-, -, desk⟩ := lost
    · exact desk ▸ known.grow sub
    · exact desk ▸ (known.vanish _ _).grow sub
  have apart : Distinct (bs ++ x :: after) (old ++ createdNames h₁.calls) := by
    rw [← stored, passed]
    exact distinct_pass distinct (by rwa [← passed]) entries
  have again : h₁.entries (.watched emit group) = bs ++ x :: after := by
    rw [← stored, passed, entries_pass distinct, statuses_pass]
  -- so the second one finds the entries before the cut stable
  have stable : ∀ b ∈ bs, Stable ⟨context, h.item, group⟩ h.registry h₁.desk b := by
    have start : Distinct (before ++ x :: after) (old ++ createdNames h.calls) := by
      rw [← visited]
      exact entries.statusOrFresh distinct
    have left : Distinct before (old ++ createdNames h.calls) :=
      ⟨(List.pairwise_append.1 start.apart).1, fun y hy =>
        start.known y (List.mem_append_left _ hy)⟩
    have fresh' : ((old ++ createdNames h.calls) ++ names).Nodup := by
      rw [List.append_assoc]
      exact fresh₁.sublist (earlier.sublist.append_left old)
    have settled := first.stable named left fresh' fun y hy => by
      have mem : y ∈ h.entries (.watched emit group) := visited ▸ List.mem_append_left _ hy
      obtain ⟨definition, -, rfl⟩ := List.mem_map.1 mem
      exact isSound_statusOrFresh sound definition
    intro b hb
    obtain desk | ⟨-, -, desk⟩ := lost
    · exact desk ▸ settled b hb
    · rw [desk]
      exact (settled b hb).of_keeps fun task => .vanish fun same =>
        (List.pairwise_append.1 apart.apart).2.2 b hb x List.mem_cons_self task same.symm
  obtain ⟨more, grown, second⟩ := works_pass orderly' complete named₁ fresh
  obtain ⟨status, item⟩ := h.item_step (.watched emit group) (.pass context c)
  rw [step, ← passed] at item
  rw [again, registry, item] at second
  refine ⟨names ++ more, ?_, ?_⟩
  · rw [← List.append_assoc, grown]
    exact earlier.sublist.append_right more
  · rw [visited]
    exact first.resume lost stable second.of_withStatus

/-! ## Two passes are like one -/

/-- **The names in use**: those of the tasks that the entries name, of the tasks in the store, and
of the keys whose spans are bound. -/
def namesInUse (u : Setup (Watch ε)) (h : Host (Watch ε)) : List String :=
  namedTasks (h.statuses u) ++ h.store.tasks.keys.map (·.name)
    ++ h.watcher.spans.bound.keys.map (·.name)

theorem named_desk (u : Setup (Watch ε)) (keyed : h.store.IsKeyed) :
    h.desk.Named (h.namesInUse u) := by
  refine ⟨fun k t found => ⟨keyed k t found, ?_⟩, fun k bound => ?_⟩
  · obtain ⟨e, mem, -⟩ := Option.map_eq_some_iff.1 found
    have same : e.1 = k := by simpa using List.find?_some mem
    refine List.mem_append_left _ (List.mem_append_right _ (List.mem_map.2 ⟨k, ?_, rfl⟩))
    exact List.mem_map.2 ⟨e, List.mem_of_find?_eq_some mem, same⟩
  · obtain ⟨e, mem, same⟩ := List.any_eq_true.1 bound
    refine List.mem_append_right _ (List.mem_map.2 ⟨k, ?_, rfl⟩)
    exact List.mem_map.2 ⟨e, mem, by simpa using same⟩

/-- A pass that was cut short and made again, beside one that was not. -/
theorem resumed_alike {c'' : Chance} {r r' : Reconciliation} {err : PassError}
    {h₁ h₂ h₃ : Host (Watch ε)} (new : h.calls = [])
    (distinct : (h.declared (.watched emit group)).Nodup)
    (entries : (h.statuses (.watched emit group)).Pairwise ItemStatus.Apart)
    (sound : ∀ x ∈ h.statuses (.watched emit group), x.IsSound) (keyed : h.store.IsKeyed)
    (orderly : c.IsOrderly) (orderly' : c'.IsOrderly) (orderly'' : c''.IsOrderly)
    (cut : h.pass (.watched emit group) context c = (.error err, h₁))
    (complete : h₁.pass (.watched emit group) context c' = (.ok r, h₂))
    (whole : h.pass (.watched emit group) context c'' = (.ok r', h₃))
    (fresh : (createdNames h₂.calls).Nodup)
    (unused : ∀ n ∈ createdNames h₂.calls, n ∉ h.namesInUse (.watched emit group))
    (fresh' : (createdNames h₃.calls).Nodup)
    (unused' : ∀ n ∈ createdNames h₃.calls, n ∉ h.namesInUse (.watched emit group)) :
    ∃ ρ : Equiv.Perm String, (∀ n ∈ h.namesInUse (.watched emit group), ρ n = n) ∧
      Forall₂ (ItemStatus.Alike ρ) (h₂.statuses (.watched emit group))
        (h₃.statuses (.watched emit group)) ∧
      h₂.desk.Alike ρ h₃.desk := by
  set inUse := h.namesInUse (.watched emit group)
  have none : createdNames h.calls = [] := by rw [new]; rfl
  have apart : ∀ {l : List String}, l.Nodup → (∀ n ∈ l, n ∉ inUse) → (inUse.dedup ++ l).Nodup :=
    fun nodup new => List.nodup_append.2 ⟨inUse.nodup_dedup, nodup, fun n hn n' hn' same =>
      new n' hn' (same ▸ List.mem_dedup.1 hn)⟩
  have known : inUse ⊆ inUse.dedup ++ createdNames h.calls := fun n hn =>
    List.mem_append_left _ (List.mem_dedup.2 hn)
  have named := (named_desk (.watched emit group) keyed).grow known
  have start : Distinct (h.statuses (.watched emit group)) inUse :=
    ⟨entries, fun x hx task => List.mem_append_left _ (List.mem_append_left _
      (List.mem_map.2 ⟨x, List.mem_filter.2 ⟨hx, task⟩, rfl⟩))⟩
  obtain ⟨names, sub, works⟩ := works_resumed distinct (start.grow known) sound named orderly
    orderly' cut complete (apart fresh unused)
  obtain ⟨names', grown, works'⟩ := works_pass orderly'' whole named (apart fresh' unused')
  rw [none, List.nil_append] at sub grown
  rw [grown] at fresh' unused'
  -- the names are changed one by one, and no other name is
  obtain ⟨ρ, fixed, agree⟩ := exists_renaming ("" :: inUse) (fresh.sublist sub) fresh'
    (fun n hn => List.not_mem_cons_of_ne_of_not_mem
      (fun e => works.names_ne_empty (e ▸ hn)) (unused n (sub.subset hn)))
    (fun n hn => List.not_mem_cons_of_ne_of_not_mem
      (fun e => works'.names_ne_empty (e ▸ hn)) (unused' n hn))
  have kept : ∀ x ∈ h.entries (.watched emit group), ρ x.task = x.task := by
    intro x hx
    refine fixed _ ?_
    cases task : x.hasTask with
    | true =>
      exact List.mem_cons_of_mem _ ((start.statusOrFresh distinct).known x hx task)
    | false =>
      rw [ItemStatus.hasTask_eq_false_iff.1 task]
      exact List.mem_cons_self
  have same : h.desk.Alike ρ h.desk := .refl (named_desk (.watched emit group) keyed) fun n hn =>
    fixed n (List.mem_cons_of_mem _ hn)
  exact ⟨ρ, fun n hn => fixed n (List.mem_cons_of_mem _ hn),
    works.alike works' same named kept (fixed "" List.mem_cons_self) agree⟩

/-- **A pass that is cut short loses and repeats nothing.**  The entries of an item are what a run
has made of none at all; the tasks, which stand under their own keys, the definitions and the spans
are any.  A pass over them is cut short, by the token wherever it is looked at or by a task that
cannot be read, and nothing is refused.  What it hands over is stored, and a second pass is not cut.
Both together leave what one pass leaves that is not cut, but for the names of new tasks and the
times: the same entries in the same order, the same tasks, the same spans bound, and the same
records of spans, exported or not.  The names of new tasks do not repeat, and none is in use
before. -/
theorem resumed_like_uninterrupted {τ : Type} (u₀ : Setup τ)
    (emit : PhaseEvent → Act ε (Except EventError Unit)) (item : PhaseItem)
    (defaultNamespace : String) (watcher₀ : τ) (moves : List Move) (store : TaskStore)
    (registry : DefinitionRegistry) (watcher : Watch ε) (context : Context) (c₁ c₂ c₃ : Chance)
    (err : PassError) (blank : item.statuses u₀.group = [])
    (distinct : (item.declared u₀.group).Nodup)
    (unrepeated : (createdNames ((start item defaultNamespace watcher₀).run u₀ moves).calls).Nodup)
    (keyed : store.IsKeyed) (orderly : c₁.IsOrderly) (calm₂ : c₂.IsCalm) (calm₃ : c₃.IsCalm) :
    let u := Setup.watched emit u₀.group
    let h : Host (Watch ε) :=
      ⟨((start item defaultNamespace watcher₀).run u₀ moves).item, store, registry, watcher, []⟩
    let cut := h.pass u context c₁
    let resumed := cut.2.pass u context c₂
    let whole := h.pass u context c₃
    cut.1 = .error err →
    (createdNames resumed.2.calls).Nodup →
    (∀ n ∈ createdNames resumed.2.calls, n ∉ h.namesInUse u) →
    (createdNames whole.2.calls).Nodup →
    (∀ n ∈ createdNames whole.2.calls, n ∉ h.namesInUse u) →
    (∃ r, resumed.1 = .ok r) ∧ (∃ r, whole.1 = .ok r) ∧
      ∃ ρ : Equiv.Perm String, (∀ n ∈ h.namesInUse u, ρ n = n) ∧
        Forall₂ (ItemStatus.Alike ρ) (resumed.2.statuses u) (whole.2.statuses u) ∧
        resumed.2.desk.Alike ρ whole.2.desk := by
  intro u h cut resumed whole stopped fresh unused fresh' unused'
  obtain ⟨r, complete⟩ : ∃ r, resumed.1 = .ok r := pass_ok_of_calm calm₂
  obtain ⟨r', complete'⟩ : ∃ r, whole.1 = .ok r := pass_ok_of_calm calm₃
  have none : (start item defaultNamespace watcher₀).statuses u₀ = [] := blank
  have apart : Distinct (h.statuses u)
      ([] ++ createdNames ((start item defaultNamespace watcher₀).run u₀ moves).calls) :=
    distinct_run (h := start item defaultNamespace watcher₀) distinct moves unrepeated
      ⟨none ▸ .nil, fun x hx => absurd (none ▸ hx) List.not_mem_nil⟩
  have sound : ∀ x ∈ h.statuses u, x.IsSound :=
    isSound_run moves fun x hx => absurd (none ▸ hx) List.not_mem_nil
  have declared : (h.declared u).Nodup := by
    rwa [show h.declared u = item.declared u₀.group from
      declared_run u₀ (start item defaultNamespace watcher₀) moves]
  exact ⟨⟨r, complete⟩, ⟨r', complete'⟩, resumed_alike rfl declared apart.apart sound keyed orderly
    calm₂.isOrderly calm₃.isOrderly (Prod.ext stopped rfl) (Prod.ext complete rfl)
    (Prod.ext complete' rfl) fresh unused fresh' unused'⟩

/-- The replacement of a lost task is dropped by the token, and made by the next pass. -/
theorem resumed_like_uninterrupted_after_a_loss :
    let u := Sample.watched
    let reached := (start (Sample.item ["smoke"]) "shared" ()).run Sample.setup
      [.define (Sample.definition "smoke"), .pass .empty .calm]
    let h : Host (Watch Unit) := ⟨reached.item, .empty, reached.registry, Sample.watch, []⟩
    let cut := h.pass u .empty { Chance.calm with create := fun _ => .dropped, draw := (· + 100) }
    let resumed := cut.2.pass u .empty { Chance.calm with draw := (· + 200) }
    let whole := h.pass u .empty { Chance.calm with draw := (· + 300) }
    cut.1 = .error (.cancelled "smoke" (reached.statuses Sample.setup)) ∧
      createdNames resumed.2.calls = ["pre-smoke-10105", "pre-smoke-10205"] ∧
      createdNames whole.2.calls = ["pre-smoke-10305"] ∧
      ∃ ρ : Equiv.Perm String, resumed.2.desk.Alike ρ whole.2.desk := by
  intro u reached h cut resumed whole
  have stopped : cut.1 = .error (.cancelled "smoke" (reached.statuses Sample.setup)) := by
    decide +kernel
  have once : createdNames reached.calls = ["pre-smoke-10003"] := by decide +kernel
  have used : h.namesInUse u = ["pre-smoke-10003"] := by decide +kernel
  have names : createdNames resumed.2.calls = ["pre-smoke-10105", "pre-smoke-10205"] := by
    decide +kernel
  have names' : createdNames whole.2.calls = ["pre-smoke-10305"] := by decide +kernel
  have orderly : Chance.IsOrderly
      { Chance.calm with create := fun _ => .dropped, draw := (· + 100) } :=
    ⟨Chance.isTruthful_calm, nofun, nofun⟩
  have unused : ∀ n ∈ createdNames resumed.2.calls, n ∉ h.namesInUse u := by
    rw [names, used]
    decide
  have unused' : ∀ n ∈ createdNames whole.2.calls, n ∉ h.namesInUse u := by
    rw [names', used]
    decide
  have fresh : (createdNames resumed.2.calls).Nodup := by
    rw [names]
    decide
  have fresh' : (createdNames whole.2.calls).Nodup := by
    rw [names']
    decide
  obtain ⟨-, -, ρ, -, -, alike⟩ := resumed_like_uninterrupted Sample.setup
    (fun _ => Act.silent (pure (.ok ()))) (Sample.item ["smoke"]) "shared" ()
    [.define (Sample.definition "smoke"), .pass .empty .calm] .empty reached.registry Sample.watch
    .empty _ _ _ _ rfl (by decide) (by rw [once]; exact List.nodup_singleton _)
    TaskStore.isKeyed_empty orderly (Chance.isCalm_calm (· + 200)) (Chance.isCalm_calm (· + 300))
    stopped fresh unused fresh' unused'
  exact ⟨stopped, names, names', ρ, alike⟩

end Host

end DeployChecks
