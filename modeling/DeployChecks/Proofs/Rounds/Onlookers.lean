import DeployChecks.Proofs.Engine.Lockstep
import DeployChecks.Proofs.Rounds.Basic

/-!
# Proofs/Rounds/Onlookers — who watches has no say

Spans and events are for those who watch.  Whatever an observer answers, and even if it fails at
every call, the rounds of a host come out the same: the same results, the same questions to the
backend, and the same tasks created, but for the trace headers in their metadata.  Two passes are
in lockstep (`Lockstep.reconcile`); round after round they stay so, since both sides store the same
entries.  What is assumed of the backend, that metadata makes no difference to it, holds of the one
in memory (`Memory.isIndifferent_backend`).  Main definitions: `Occasion`, `Onlooker`, `reports`;
main statement: `onlookers_have_no_say`.
-/

namespace DeployChecks

open List (Forall₂)
open Trace (Context)

/-! ## Rounds with and without onlookers -/

/-- **A round, but for who watches it.** -/
structure Occasion (σ : Type) where
  /-- What decides. -/
  backend : Backend σ
  /-- What has become of its state since the round before. -/
  before : σ → σ
  /-- The item, but for the entries that are kept. -/
  item : PhaseItem

/-- **Who watches a round.** -/
structure Onlooker (τ : Type) where
  /-- What watches. -/
  observer : Observer τ
  /-- Its state. -/
  state : τ
  /-- The context in which the spans start. -/
  context : Context

/-- **What a round tells of its decisions.** -/
structure Report where
  /-- The result. -/
  result : Except PassError Reconciliation
  /-- The calls to the backend. -/
  decisions : List Call
  /-- The headers that new tasks carry. -/
  headers : StringMap String

namespace Report

/-- **Two reports are alike**: the same result, and the same calls but for the metadata of new
tasks; with the same headers, the very same calls. -/
structure Alike (a b : Report) : Prop where
  /-- The results. -/
  result : a.result = b.result
  /-- The calls. -/
  decisions : Forall₂ (Call.Like Task.Agrees) a.decisions b.decisions
  /-- The calls, if the headers are the same. -/
  same : a.headers = b.headers → a.decisions = b.decisions

end Report

section

variable {σ τ τ' : Type}

/-- Metadata makes no difference to a round. -/
structure Occasion.IsIndifferent (o : Occasion σ) (Alike : σ → σ → Prop) : Prop where
  /-- Not to the backend. -/
  backend : o.backend.IsIndifferent Alike
  /-- Nor to what becomes of its state. -/
  before : ∀ {s s'}, Alike s s' → Alike (o.before s) (o.before s')

/-- The round that is watched. -/
def Occasion.round (o : Occasion σ) (s : σ) (l : Onlooker τ) : Round σ τ :=
  ⟨⟨o.backend, l.observer⟩, o.before s, l.state, l.context, o.item⟩

namespace Round

variable (r : Round σ τ) (group : CheckGroup) (kept : List ItemStatus)

/-- The state of the backend after a round. -/
def backendAfter : σ := (r.engine.reconcile (r.pass group kept) r.world).2.backend

/-- What a round tells. -/
def report : Report :=
  ⟨r.result group kept, (r.calls group kept).filter Call.isDeciding, r.context.inject⟩

end Round

/-- **The reports of rounds**, one after the other.  Each round takes over the entries and the state
of the backend from the one before. -/
def reports (group : CheckGroup) :
    List ItemStatus → σ → List (Occasion σ × Onlooker τ) → List Report
  | _, _, [] => []
  | kept, s, (o, l) :: rest =>
    (o.round s l).report group kept ::
      reports group ((o.round s l).stored group kept) ((o.round s l).backendAfter group kept) rest

end

/-! ## The backend in memory -/

namespace Memory

/-- **Memories that are alike**: the same tasks but for their metadata, the same definitions, and as
many looks at chance. -/
structure Alike (m m' : Memory) : Prop where
  /-- The tasks. -/
  tasks : ∀ k, Option.Rel Task.Agrees (m.store.peek k) (m'.store.peek k)
  /-- The definitions. -/
  registry : m'.registry = m.registry
  /-- The looks at chance. -/
  looks : m'.looks = m.looks

namespace Alike

variable {m m' : Memory}

theorem refl (m : Memory) : Alike m m := by
  refine ⟨fun k => ?_, rfl, rfl⟩
  cases m.store.peek k with
  | none => exact .none
  | some t => exact .some ⟨t.spec.context.metadata, rfl⟩

theorem next (alike : Alike m m') : Alike m.next m'.next :=
  ⟨alike.tasks, alike.registry, congrArg (· + 1) alike.looks⟩

/-- Stores that hold other tasks alike may take the place of those before. -/
theorem withStore (alike : Alike m m') {s s' : TaskStore}
    (tasks : ∀ k, Option.Rel Task.Agrees (s.peek k) (s'.peek k)) :
    Alike { m with store := s } { m' with store := s' } := ⟨tasks, alike.registry, alike.looks⟩

/-- Tasks that agree are alike under their key. -/
theorem insert (alike : Alike m m') {s s' : TaskStore} {t t' : Task} (k : TaskKey)
    (agrees : t.Agrees t') (inserted : s.tasks = m.store.tasks.insert k t)
    (inserted' : s'.tasks = m'.store.tasks.insert k t') (k' : TaskKey) :
    Option.Rel Task.Agrees (s.peek k') (s'.peek k') := by
  rw [TaskStore.peek, TaskStore.peek, inserted, inserted', Keyed.find?_insert, Keyed.find?_insert]
  split
  · exact .some agrees
  · exact alike.tasks k'

/-- A report on a task does not depend on its metadata. -/
theorem report (alike : Alike m m') (k : TaskKey) (state : TaskState) (message : String)
    (now : Timestamp) :
    Alike { m with store := (m.store.report k state message now).2 }
      { m' with store := (m'.store.report k state message now).2 } := by
  have tasks := alike.tasks k
  unfold TaskStore.report
  generalize found : m.store.peek k = a at tasks
  generalize found' : m'.store.peek k = a' at tasks
  cases tasks with
  | none => exact alike
  | some agrees =>
    obtain ⟨metadata, rfl⟩ := agrees
    exact alike.withStore (alike.insert k ⟨metadata, rfl⟩ rfl rfl)

/-- The fate of a call does not depend on the metadata of tasks. -/
theorem settle (alike : Alike m m') (fate : Fate StoreError)
    {answer answer' : Except StoreError Task}
    (agreement : Agreement (some answer) (some answer')) {s s' : TaskStore}
    (tasks : ∀ k, Option.Rel Task.Agrees (s.peek k) (s'.peek k)) :
    Agreement (m.settle fate answer s).1 (m'.settle fate answer' s').1 ∧
      Alike (m.settle fate answer s).2 (m'.settle fate answer' s').2 := by
  cases fate with
  | answered => exact ⟨agreement, alike.withStore tasks⟩
  | failed err => exact ⟨.failed err, alike⟩
  | dropped => exact ⟨.dropped, alike⟩

end Alike

/-- **Metadata makes no difference to the memory.** -/
theorem isIndifferent_backend (c : Chance) : (backend c).IsIndifferent Alike where
  isCancelled alike := ⟨congrArg c.cancelled alike.looks.symm, alike.next⟩
  get ns name m m' alike := by
    have tasks := alike.tasks ⟨ns, name⟩
    simp only [backend, Act.silent, alike.looks]
    refine alike.next.settle _ ?_ alike.tasks
    unfold TaskStore.get
    dsimp only
    generalize m.store.peek ⟨ns, name⟩ = a at tasks
    generalize m'.store.peek ⟨ns, name⟩ = a' at tasks
    cases tasks with
    | none => exact .failed _
    | some agrees => exact .given agrees
  create {t t'} agrees {m m'} alike := by
    obtain ⟨metadata, rfl⟩ := agrees
    have tasks : Option.Rel Task.Agrees (m.store.peek t.key)
        (m'.store.peek (t.withMetadata metadata).key) := alike.tasks t.key
    simp only [backend, Act.silent, alike.looks]
    generalize found : m.store.peek t.key = a at tasks
    generalize found' : m'.store.peek (t.withMetadata metadata).key = a' at tasks
    cases tasks with
    | none =>
      rw [TaskStore.create_of_free found, TaskStore.create_of_free found']
      exact alike.next.settle _ (.given ⟨metadata, rfl⟩)
        (alike.insert t.key ⟨metadata, rfl⟩ rfl rfl)
    | some _ =>
      rw [TaskStore.create_of_taken (by rw [found]; rfl),
        TaskStore.create_of_taken (by rw [found']; rfl)]
      exact alike.next.settle _ (.failed _) alike.tasks
  resolve name ns m m' alike := by
    simp only [backend, alike.looks, alike.registry]
    cases c.resolve m.looks with
    | answered => exact ⟨rfl, alike.next⟩
    | failed err => exact ⟨rfl, alike.next⟩
    | dropped => exact ⟨rfl, alike.next⟩
  now alike := ⟨congrArg c.clock alike.looks.symm, alike.next⟩
  draw alike := ⟨congrArg c.draw alike.looks.symm, alike.next⟩

end Memory

/-! ## In lockstep -/

section

variable {σ τ τ' : Type} {Alike : σ → σ → Prop} {o : Occasion σ} {l : Onlooker τ}
  {l' : Onlooker τ'} {s s' : σ}

/-- In whatever contexts a round is watched, new tasks agree. -/
theorem Occasion.agrees_stamp (group : CheckGroup) (kept : List ItemStatus) (d : TaskDefinition)
    (draw : Nat) : (((o.round s l).pass group kept).stamp d draw).Agrees
      (((o.round s' l').pass group kept).stamp d draw) := ⟨_, rfl⟩

/-- What lockstep says of one round. -/
theorem Occasion.IsIndifferent.lockstep {T : Task → Task → Prop}
    (indifferent : o.IsIndifferent Alike) (alike : Alike s s') (group : CheckGroup)
    (kept : List ItemStatus)
    (stamps : ∀ d draw, T (((o.round s l).pass group kept).stamp d draw)
      (((o.round s' l').pass group kept).stamp d draw)) :
    (o.round s l).result group kept = (o.round s' l').result group kept ∧
      Alike ((o.round s l).backendAfter group kept) ((o.round s' l').backendAfter group kept) ∧
      Forall₂ (Call.Like T) ((o.round s l).report group kept).decisions
        ((o.round s' l').report group kept).decisions := by
  have locked : Lockstep T Alike Eq
      ((o.round s l).engine.reconcile ((o.round s l).pass group kept))
      ((o.round s' l').engine.reconcile (((o.round s l).pass group kept).within l'.context)) :=
    .reconcile indifferent.backend stamps
  obtain ⟨result, backend, decisions⟩ := locked (o.round s l).world (o.round s' l').world
    ⟨indifferent.before alike, .nil⟩
  exact ⟨result, backend, decisions⟩

/-- **One round is the same**, whoever watches. -/
theorem Occasion.IsIndifferent.alike_report (indifferent : o.IsIndifferent Alike)
    (alike : Alike s s') (group : CheckGroup) (kept : List ItemStatus) :
    ((o.round s l).report group kept).Alike ((o.round s' l').report group kept) := by
  obtain ⟨result, -, decisions⟩ :=
    indifferent.lockstep alike group kept (Occasion.agrees_stamp group kept)
  refine ⟨result, decisions, fun headers => ?_⟩
  have stamps (d : TaskDefinition) (draw : Nat) :
      ((o.round s l).pass group kept).stamp d draw
        = ((o.round s' l').pass group kept).stamp d draw :=
    congrArg (fun headers => d.stamp group (o.item.setStatuses group kept) headers draw) headers
  have like := (indifferent.lockstep alike group kept stamps).2.2
  rw [← List.forall₂_eq_eq_eq]
  exact like.imp fun _ _ => Call.Like.eq

/-- **Nobody who watches has a say.**  Rounds are watched by one side or by the other: in each of
them any observers, in any states, that answer what they like or fail, and any contexts.  The tasks
that the backends hold at first may differ in their metadata, and metadata makes no difference to
their answers nor to what becomes of them between the rounds.  Then all rounds come out the same:
with the same result, whole or cut short, after the same calls to the backend in the same order,
where tasks that are created differ at most in their metadata, and not even there if the contexts
carry the same headers. -/
theorem onlookers_have_no_say (group : CheckGroup) (kept : List ItemStatus)
    (rounds : List (Occasion σ × Onlooker τ × Onlooker τ')) (s s' : σ) (alike : Alike s s')
    (indifferent : ∀ r ∈ rounds, r.1.IsIndifferent Alike) :
    Forall₂ Report.Alike (reports group kept s (rounds.map fun r => (r.1, r.2.1)))
      (reports group kept s' (rounds.map fun r => (r.1, r.2.2))) := by
  induction rounds generalizing kept s s' with
  | nil => exact .nil
  | cons r rounds ih =>
    obtain ⟨first, others⟩ := List.forall_mem_cons.1 indifferent
    obtain ⟨o, l, l'⟩ := r
    obtain ⟨result, after, -⟩ :=
      first.lockstep alike group kept (Occasion.agrees_stamp group kept)
    -- both sides store the same entries, since their results are the same
    have stored : (o.round s l).stored group kept = (o.round s' l').stored group kept :=
      congrArg keptStatuses result
    rw [List.map_cons, List.map_cons, reports, reports, stored]
    exact .cons (first.alike_report alike group kept) (ih _ _ _ after others)

end

/-- An observer that fails at every call. -/
def Observer.broken : Observer Unit where
  openSpan key _ _ := Act.silent (pure (.error (.rejected key.name "broken")))
  getOrOpen key _ _ := Act.silent (pure (.error (.rejected key.name "broken")))
  lookup _ := Act.silent (pure none)
  unbind key := Act.silent (pure (.error (.rejected key.name "broken")))
  addEvent _ _ := pure ()
  setStatus _ _ := pure ()
  finish _ := pure ()
  emit _ := Act.silent (pure (.error .channelClosed))

/-- A task is created and then reported finished.  On the one side nobody watches, and on the other
every span and every event fails, in a context with baggage. -/
theorem onlookers_have_no_say_when_all_fails :
    let memory : Memory :=
      ⟨.empty, (DefinitionRegistry.empty "shared").register (Sample.definition "smoke"), 0⟩
    let first : Occasion Memory := ⟨Memory.backend .calm, id, Sample.item ["smoke"]⟩
    let second : Occasion Memory := ⟨Memory.backend .calm, fun m =>
      { m with store :=
        (m.store.report ⟨"prod", "pre-smoke-10003"⟩ .succeeded "done" default).2 },
      Sample.item ["smoke"]⟩
    let nobody : Onlooker Unit := ⟨.blind, (), .empty⟩
    let troubled : Onlooker Unit :=
      ⟨.broken, (), ⟨none, Trace.Baggage.insert .empty "tenant" ⟨"acme", ""⟩⟩⟩
    let quiet := reports .pre [] memory [(first, nobody), (second, nobody)]
    let loud := reports .pre [] memory [(first, troubled), (second, troubled)]
    quiet.map (keptStatuses ·.result) =
        [[⟨"smoke", "pre-smoke-10003", .pending, some default, none⟩],
          [⟨"smoke", "pre-smoke-10003", .succeeded, some default, some default⟩]] ∧
      nobody.context.inject.toList = [] ∧
      troubled.context.inject.toList = [("baggage", "tenant=acme")] ∧
      Forall₂ Report.Alike quiet loud := by
  intro memory first second nobody troubled quiet loud
  have indifferent : ∀ r ∈ [(first, nobody, troubled), (second, nobody, troubled)],
      r.1.IsIndifferent Memory.Alike := by
    refine List.forall_mem_cons.2 ⟨⟨Memory.isIndifferent_backend .calm, id⟩, ?_⟩
    refine List.forall_mem_singleton.2 ⟨Memory.isIndifferent_backend .calm, ?_⟩
    exact fun alike => alike.report _ _ _ _
  exact ⟨by decide +kernel, by decide +kernel, by decide +kernel,
    onlookers_have_no_say .pre [] [(first, nobody, troubled), (second, nobody, troubled)] memory
      memory (.refl memory) indifferent⟩

end DeployChecks
