import DeployChecks.Proofs.Engine.Declared
import DeployChecks.Proofs.Rounds.Announcements
import DeployChecks.Proofs.Rounds.Frozen
import DeployChecks.Proofs.Rounds.Verdict
import DeployChecks.Proofs.StatusSummary

/-!
# Proofs/Rounds/Independence — no definition depends on another one

Over a steady backend a round comes to the verdict of every definition, in whatever order they have
their turns and whatever else is declared and kept.  So two rounds that begin with the same tasks
and the same definitions say the same of every definition that both declare, but for new names and
times: the entry, the lists that it is on, and the events.  Main definition: `Reconciliation.Tells`;
main statements: `Round.tells_verdict` and `definitions_are_independent`.
-/

namespace DeployChecks

/-! ## What a result tells -/

/-- **What a result tells of a definition**: the entry, and on which lists it is. -/
structure Reconciliation.Tells (r : Reconciliation) (definition : String) (o : Outcome) :
    Prop where
  /-- The entry. -/
  entry : findStatus definition r.statuses = some o.status
  /-- Whether its task was created. -/
  created : definition ∈ r.created ↔ o = .created o.status
  /-- Whether its task was first seen finished. -/
  completed : definition ∈ r.completed ↔ o = .refreshed o.status true
  /-- Whether it was left for the next pass, and why. -/
  skipped : ∀ reason, ⟨definition, reason⟩ ∈ r.skipped ↔ o = .skipped o.status reason

namespace Outcome

variable {o o' : Outcome}

theorem isCompletion_iff : o.isCompletion = true ↔ o = .refreshed o.status true := by
  cases o <;> simp [isCompletion, status]

theorem skip?_eq_some {definition : String} {reason : SkipReason} :
    o.skip? = some ⟨definition, reason⟩ ↔
      o = .skipped o.status reason ∧ o.status.definition = definition := by
  cases o <;> simp [skip?, status, and_comm]

/-- Outcomes that are alike leave the same state. -/
theorem Alike.state (alike : o.Alike o') : o'.status.state = o.status.state := by
  cases alike <;> rfl

/-- They are the same news. -/
theorem Alike.news (alike : o.Alike o') (item : PhaseItem) (previous : Option TaskState) :
    o'.news item previous = o.news item previous := by
  cases alike <;> rfl

end Outcome

namespace Reconciliation

/-- A name is listed as created for an outcome that says so. -/
theorem mem_created_foldl_record {definition : String} {os : List Outcome} {r : Reconciliation} :
    definition ∈ (os.foldl record r).created ↔
      definition ∈ r.created ∨ ∃ x, .created x ∈ os ∧ x.definition = definition := by
  induction os generalizing r with
  | nil => simp
  | cons o os ih =>
    rw [List.foldl_cons, ih]
    cases o with
    | created x => simp [record, or_assoc, eq_comm]
    | refreshed x completed => cases completed <;> simp [record]
    | _ => simp [record]

/-- **A result tells every outcome**, where each has a name of its own. -/
theorem tells_foldl_record {os : List Outcome}
    (distinct : (os.map (·.status.definition)).Nodup) {o : Outcome} (mem : o ∈ os) :
    (os.foldl record empty).summarized.Tells o.status.definition o := by
  have only {o' : Outcome} (mem' : o' ∈ os)
      (same : o'.status.definition = o.status.definition) : o' = o :=
    List.inj_on_of_nodup_map distinct mem' mem same
  refine ⟨?_, ?_, ?_, fun reason => ?_⟩
  · rw [statuses_summarized, statuses_foldl_record]
    refine findStatus_eq_some (List.mem_map_of_mem mem) rfl fun y hy same => ?_
    obtain ⟨o', mem', rfl⟩ := List.mem_map.1 hy
    rw [only mem' same]
  · rw [summarized, mem_created_foldl_record]
    constructor
    · rintro (listed | ⟨x, hx, same⟩)
      · exact absurd listed List.not_mem_nil
      · rw [← only hx same]
        rfl
    · exact fun created => .inr ⟨o.status, created ▸ mem, rfl⟩
  · rw [summarized, completed_foldl_record, empty, List.nil_append, List.mem_map]
    constructor
    · rintro ⟨o', mem', same⟩
      obtain ⟨mem', completion⟩ := List.mem_filter.1 mem'
      exact Outcome.isCompletion_iff.1 (only mem' same ▸ completion)
    · exact fun completed =>
        ⟨o, List.mem_filter.2 ⟨mem, Outcome.isCompletion_iff.2 completed⟩, rfl⟩
  · rw [summarized, skipped_foldl_record, empty, List.nil_append, List.mem_filterMap]
    constructor
    · rintro ⟨o', mem', left⟩
      obtain ⟨skipped, same⟩ := Outcome.skip?_eq_some.1 left
      exact only mem' same ▸ skipped
    · exact fun skipped => ⟨o, mem, Outcome.skip?_eq_some.2 ⟨skipped, rfl⟩⟩

end Reconciliation

/-! ## Passes that come to their end -/

namespace Engine

variable {σ τ : Type} {e : Engine σ τ} {p : Pass} {prior : List ItemStatus}

/-- **A pass that comes to its end** gave every definition its turn, and its result is recorded from
their outcomes. -/
theorem visitAll_of_ok {definitions : List String} {r a : Reconciliation} {w : World σ τ}
    (ok : (e.visitAll p prior r definitions w).1 = .ok a) :
    (e.dones p prior definitions w).map (·.definition) = definitions ∧
      e.trail p prior definitions w
        = (e.dones p prior definitions w).map (fun d => (d.definition, d.calls)) ∧
      a = (((e.dones p prior definitions w).map (·.outcome)).foldl .record r).summarized := by
  induction definitions generalizing r w with
  | nil => exact ⟨rfl, rfl, (Except.ok.inj ok).symm⟩
  | cons definition rest ih =>
    rw [visitAll_cons] at ok
    rw [dones, trail]
    generalize e.turn p prior definition w = t at ok
    obtain ⟨result, w₁⟩ := t
    cases result with
    | error i => simp [Run.map_apply] at ok
    | ok o =>
      obtain ⟨names, calls, recorded⟩ := ih ok
      exact ⟨by rw [List.map_cons, names], by rw [List.map_cons, ← calls]; rfl, recorded⟩

/-- What the calls of a turn tell. -/
theorem told_of_mem_dones {definitions : List String} {w : World σ τ} {d : Done σ τ}
    (mem : d ∈ e.dones p prior definitions w) :
    told d.calls = d.outcome.news p.item ((findStatus d.definition prior).map (·.state)) := by
  have turn := (turn_of_mem_dones e p prior mem).2
  obtain ⟨more, grow⟩ := turn.calls_grow
  have news := turn.told
  rw [← grow, told_append, List.append_cancel_left_eq] at news
  rw [Done.calls, ← grow, List.drop_left, news]

end Engine

/-! ## Rounds that come to their end -/

namespace PhaseItem

@[simp] theorem about_setStatuses (item : PhaseItem) (group : CheckGroup) (kept : List ItemStatus)
    (phase : Phase) (severity : Severity) (reason message : String) (now : Timestamp) :
    PhaseEvent.about (item.setStatuses group kept) phase severity reason message now
      = .about item phase severity reason message now := by
  cases item <;> rfl

end PhaseItem

/-- The news are the same, whatever is declared. -/
theorem Outcome.news_declaring (item : PhaseItem) (group : CheckGroup) (names : List String)
    (previous : Option TaskState) (o : Outcome) :
    o.news (item.declaring group names) previous = o.news item previous := by
  simp [news, complaints, changes]

namespace Round

variable {σ τ τ' : Type} {h : Holdings σ} {r : Round σ τ} {group : CheckGroup}
  {kept : List ItemStatus} {a : Reconciliation}

@[simp] theorem ns_pass (r : Round σ τ) (group : CheckGroup) (kept : List ItemStatus) :
    (r.pass group kept).item.ns = r.item.ns := r.item.ns_withStatus _

/-- The turns of a round that comes to its end. -/
theorem turns_of_ok (ok : r.result group kept = .ok a) :
    (r.dones group kept).map (·.definition) = r.declared group ∧
      r.engine.trail (r.pass group kept) kept (r.declared group) r.world
        = (r.dones group kept).map (fun d => (d.definition, d.calls)) ∧
      a = (((r.dones group kept).map (·.outcome)).foldl
        Reconciliation.record .empty).summarized := by
  rw [result, reconcile_pass] at ok
  exact Engine.visitAll_of_ok ok

/-- **The calls about a definition** are those of its turn. -/
theorem callsAbout_of_mem_dones (ok : r.result group kept = .ok a)
    (distinct : (r.declared group).Nodup) {d : Engine.Done σ τ} (mem : d ∈ r.dones group kept) :
    r.callsAbout group kept d.definition = d.calls := by
  obtain ⟨names, calls, -⟩ := turns_of_ok ok
  rw [← names] at distinct
  rw [callsAbout, Engine.callsAbout, group_pass, statuses_pass, declared_pass, calls,
    List.filter_map]
  have alone := filter_eq_singleton distinct mem
  simp [Function.comp_def, alone]

/-- The calls of a round are those about one name after the other. -/
theorem calls_eq_flatMap (ok : r.result group kept = .ok a)
    (distinct : (r.declared group).Nodup) :
    r.calls group kept = (r.declared group).flatMap (r.callsAbout group kept) := by
  obtain ⟨names, calls, -⟩ := turns_of_ok ok
  rw [Round.calls, Engine.callsIn_eq, group_pass, statuses_pass, declared_pass, calls, ← names,
    List.flatMap_map, List.flatMap_map]
  exact List.flatMap_congr fun d mem => (callsAbout_of_mem_dones ok distinct mem).symm

/-- **A round that settles**: it comes to its end, over a steady backend. -/
structure Settles (r : Round σ τ) (h : Holdings σ) (group : CheckGroup) (kept : List ItemStatus)
    (a : Reconciliation) : Prop where
  /-- The backend is steady. -/
  steady : r.engine.backend.IsSteady h
  /-- No name is declared twice. -/
  distinct : (r.declared group).Nodup
  /-- The names of new tasks are new. -/
  new : h.New r.item.ns r.backend (namedTasks kept) (createdNames (r.calls group kept))
  /-- The round comes to its end. -/
  ok : r.result group kept = .ok a

/-- **A round comes to the verdict of every definition**, and tells it. -/
theorem Settles.tells_verdict (settles : r.Settles h group kept a) {definition : String}
    (declared : definition ∈ r.declared group) :
    ∃ o, ((r.pass group kept).outlook h r.backend).Verdict (statusOrFresh definition kept) o ∧
      a.Tells definition o ∧
      told (r.callsAbout group kept definition)
        = o.news r.item ((findStatus definition kept).map (·.state)) := by
  obtain ⟨steady, distinct, new, ok⟩ := settles
  obtain ⟨names, -, rfl⟩ := turns_of_ok ok
  have about {d : Engine.Done σ τ} (mem : d ∈ r.dones group kept) :
      d.outcome.status.definition = d.definition :=
    (Engine.turn_of_mem_dones _ _ _ mem).2.definition
  obtain ⟨d, mem, rfl⟩ := List.mem_map.1 (names ▸ declared)
  refine ⟨d.outcome, ?_, ?_, ?_⟩
  · have calls : (r.engine.visitAll (r.pass group kept) kept .empty (r.declared group)
        r.world).2.scene.calls = r.calls group kept := by
      rw [← reconcile_pass]
      rfl
    rw [← calls, ← ns_pass] at new
    exact Engine.verdict_of_mem_dones steady .empty ⟨fun _ _ => rfl, rfl⟩ new d mem
  · have names' : ((r.dones group kept).map (·.outcome)).map (·.status.definition)
        = r.declared group := by
      rw [List.map_map, ← names]
      exact List.map_congr_left fun d mem => about mem
    rw [← about mem]
    exact Reconciliation.tells_foldl_record (names' ▸ distinct) (List.mem_map_of_mem mem)
  · rw [callsAbout_of_mem_dones ok distinct mem, Engine.told_of_mem_dones mem]
    simp [pass, Outcome.news, Outcome.complaints, Outcome.changes]

/-- **The summary counts states**, name by name. -/
theorem summary_eq (ok : r.result group kept = .ok a) (distinct : (r.declared group).Nodup) :
    a.summary = .ofStates ((r.declared group).map fun d => (statusOrFresh d a.statuses).state) := by
  have names : a.statuses.map (·.definition) = r.declared group := by
    rw [← r.definitions_stored group kept, stored, ok]
    rfl
  obtain ⟨-, -, recorded⟩ := turns_of_ok ok
  have entries := congrArg (List.map (·.state)) (map_statusOrFresh names distinct)
  rw [List.map_map] at entries
  rw [show a.summary = .ofStates (a.statuses.map (·.state)) by rw [recorded]; rfl, ← entries]
  rfl

/-- What a pass goes by, where other names are declared and other entries kept. -/
theorem outlook_declaring {r' : Round σ τ'} {names : List String} {kept' : List ItemStatus}
    (same : h.Same r.backend r'.backend) (context : r'.context = r.context)
    (item : r'.item = r.item.declaring group names) :
    (r'.pass group kept').outlook h r'.backend = (r.pass group kept).outlook h r.backend := by
  have stamps (d : TaskDefinition) :
      (r'.pass group kept').stamp d 0 = (r.pass group kept).stamp d 0 := by
    simp only [pass, context, item]
    cases r.item <;> cases group <;> rfl
  have ns : (r'.pass group kept').item.ns = (r.pass group kept).item.ns := by
    simp [item]
  simp only [Pass.outlook, stamps, ns, same.tasks, same.definitions]

end Round

/-! ## Two rounds -/

/-- **An entry is found by its name**, wherever it stands and whatever else is kept. -/
theorem findStatus_of_perm {kept kept' extra : List ItemStatus} {definition : String}
    (entries : (kept.map (·.definition)).Nodup) (perm : kept'.Perm (kept ++ extra))
    (other : ∀ x ∈ extra, x.definition ≠ definition) :
    findStatus definition kept' = findStatus definition kept := by
  have about {x : ItemStatus} (mem : x ∈ kept') (same : x.definition = definition) : x ∈ kept :=
    (List.mem_append.1 (perm.subset mem)).resolve_right fun mem => other x mem same
  cases found : findStatus definition kept with
  | none =>
    refine List.find?_eq_none.2 fun x mem same => ?_
    exact List.find?_eq_none.1 found x (about mem (of_decide_eq_true same)) same
  | some x =>
    have mem := List.mem_of_find?_eq_some found
    have same : x.definition = definition := by simpa using List.find?_some found
    refine findStatus_eq_some (perm.symm.subset (List.mem_append_left _ mem)) same
      fun y hy same' => ?_
    exact List.inj_on_of_nodup_map entries (about hy same') mem (same'.trans same.symm)

/-- **Definitions do not depend on each other**, nor on their order.  Two rounds settle over the
same tasks and the same definitions.  The first one starts from entries of different definitions.
The other one declares other names, and starts from the same entries in any order, together with
entries of definitions that the first one does not declare.  Then both tell the same of every
definition that both declare, but for new names and times: the entry, whether the task was created,
first seen finished, or left for the next pass and why, and the events about it.  If they declare
the same names in different orders, the summary is the same, and so are all events, in some
order. -/
theorem definitions_are_independent {σ τ τ' : Type} (h : Holdings σ) (group : CheckGroup)
    (r : Round σ τ) (r' : Round σ τ') (names : List String) (kept kept' extra : List ItemStatus)
    (a a' : Reconciliation)
    (settles : r.Settles h group kept a) (settles' : r'.Settles h group kept' a')
    (same : h.Same r.backend r'.backend) (context : r'.context = r.context)
    (item : r'.item = r.item.declaring group names) (entries : (kept.map (·.definition)).Nodup)
    (perm : kept'.Perm (kept ++ extra))
    (undeclared : ∀ x ∈ extra, x.definition ∉ r.declared group) :
    (∀ definition ∈ r.declared group, definition ∈ names →
      (∃ o o', a.Tells definition o ∧ a'.Tells definition o' ∧ o.Alike o') ∧
        told (r'.callsAbout group kept' definition) = told (r.callsAbout group kept definition)) ∧
      ((r.declared group).Perm names →
        a'.summary = a.summary ∧
          (told (r'.calls group kept')).Perm (told (r.calls group kept))) := by
  have declared' : r'.declared group = names := by simp [Round.declared, item]
  have each : ∀ definition ∈ r.declared group, definition ∈ names →
      (∃ o o', a.Tells definition o ∧ a'.Tells definition o' ∧ o.Alike o') ∧
        told (r'.callsAbout group kept' definition)
          = told (r.callsAbout group kept definition) := by
    intro definition declared mem
    have found : findStatus definition kept' = findStatus definition kept :=
      findStatus_of_perm entries perm fun x hx about => undeclared x hx (about ▸ declared)
    obtain ⟨o, verdict, tells, news⟩ := settles.tells_verdict declared
    obtain ⟨o', verdict', tells', news'⟩ := settles'.tells_verdict (declared'.symm ▸ mem)
    rw [Round.outlook_declaring same context item, statusOrFresh, found, ← statusOrFresh]
      at verdict'
    have alike := verdict.alike verdict'
    refine ⟨⟨o, o', tells, tells', alike⟩, ?_⟩
    rw [news, news', found, alike.news, item, Outcome.news_declaring]
  refine ⟨each, fun order => ⟨?_, ?_⟩⟩
  · have states : names.map (fun d => (statusOrFresh d a'.statuses).state)
        = names.map (fun d => (statusOrFresh d a.statuses).state) := by
      refine List.map_congr_left fun d mem => ?_
      obtain ⟨⟨o, o', tells, tells', alike⟩, -⟩ := each d (order.symm.subset mem) mem
      rw [statusOrFresh, statusOrFresh, tells.entry, tells'.entry]
      exact alike.state
    rw [Round.summary_eq settles'.ok settles'.distinct,
      Round.summary_eq settles.ok settles.distinct, declared', states]
    exact StatusSummary.ofStates_eq_iff.2 (order.symm.map _)
  · rw [Round.calls_eq_flatMap settles'.ok settles'.distinct,
      Round.calls_eq_flatMap settles.ok settles.distinct, declared', told_flatMap, told_flatMap,
      List.flatMap_congr fun d mem => (each d (order.symm.subset mem) mem).2]
    exact order.symm.flatMap_right _

namespace Sample

/-- A task that runs. -/
def soak : Task :=
  { (definition "soak").stamp .pre (item []) {} 0 with status := ⟨.running, "", none, none⟩ }

/-- No task of one definition is taken. -/
def refusal (spec : TaskSpec) : Option StoreError :=
  if spec.definition = "load" then some (.request "quota") else none

/-- A round over a task that runs and two definitions, where one task is refused. -/
def choosyRound (names : List String) (seed : Nat) : Round Memory Unit where
  engine := ⟨Memory.rejecting refusal { Chance.calm with draw := (· + seed) }, .blind⟩
  backend := ⟨⟨({} : Keyed TaskKey Task).insert soak.key soak, 0, 0⟩,
    ((DefinitionRegistry.empty "shared").register (definition "smoke")).register
      (definition "load"), 0⟩
  observer := ()
  context := .empty
  item := item names

end Sample

/-- The names are declared the other way round, and one more entry is kept. -/
theorem definitions_are_independent_of_their_order :
    let r := Sample.choosyRound ["smoke", "load", "ghost", "soak"] 100
    let r' := Sample.choosyRound ["soak", "ghost", "load", "smoke"] 200
    let soak : ItemStatus := ⟨"soak", "pre-soak-10000", .pending, none, none⟩
    let old : ItemStatus := ⟨"old", "pre-old-10001", .failed, none, none⟩
    ∃ a a', r.result .pre [soak] = .ok a ∧ r'.result .pre [old, soak] = .ok a' ∧
      a.skipped = [⟨"load", .creationFailed "object store request failed: quota"⟩,
        ⟨"ghost", .definitionNotFound⟩] ∧
      a.created = ["smoke"] ∧ a'.summary = a.summary ∧
      told (r'.callsAbout .pre [old, soak] "load") = told (r.callsAbout .pre [soak] "load") := by
  intro r r' soak old
  let skipped : List SkippedItem :=
    [⟨"load", .creationFailed "object store request failed: quota"⟩, ⟨"ghost", .definitionNotFound⟩]
  let smoke : ItemStatus := ⟨"smoke", "pre-smoke-10103", .pending, some default, none⟩
  let smoke' : ItemStatus := ⟨"smoke", "pre-smoke-10219", .pending, some default, none⟩
  let seen : ItemStatus := { soak with state := .running }
  let l : List ItemStatus := [smoke, .fresh "load", .fresh "ghost", seen]
  let l' : List ItemStatus := [seen, .fresh "ghost", .fresh "load", smoke']
  have ok : r.result .pre [soak] = .ok ⟨l, .ofStatuses l, ["smoke"], [], skipped⟩ := by
    decide +kernel
  have ok' : r'.result .pre [old, soak]
      = .ok ⟨l', .ofStatuses l', ["smoke"], [], skipped.reverse⟩ := by
    decide +kernel
  have created : createdNames (r.calls .pre [soak]) = ["pre-smoke-10103", "pre-load-10112"] := by
    decide +kernel
  have created' : createdNames (r'.calls .pre [old, soak])
      = ["pre-load-10211", "pre-smoke-10219"] := by
    decide +kernel
  have independent := definitions_are_independent (Memory.holdings Sample.refusal) .pre r r'
    ["soak", "ghost", "load", "smoke"] [soak] [old, soak] [old] _ _
    ⟨Memory.isSteady_rejecting (Chance.isCalm_calm (· + 100)).isOrderly _, by decide,
      created ▸ ⟨by decide, by decide, by decide⟩, ok⟩
    ⟨Memory.isSteady_rejecting (Chance.isCalm_calm (· + 200)).isOrderly _, by decide,
      created' ▸ ⟨by decide, by decide, by decide⟩, ok'⟩
    ⟨rfl, rfl⟩ rfl rfl (by decide) (by decide) (by decide)
  exact ⟨_, _, ok, ok', rfl, rfl, (independent.2 (by decide)).1,
    (independent.1 "load" (by decide) (by decide)).2⟩

end DeployChecks
