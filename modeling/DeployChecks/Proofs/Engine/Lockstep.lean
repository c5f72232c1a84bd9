import DeployChecks.Proofs.Engine.Course
import Mathlib.Data.List.Forall2

/-!
# Proofs/Engine/Lockstep — two passes in step, whoever watches

Two engines with one backend and different observers make the same pass, in contexts that may
differ.  Nothing that an observer answers goes into a decision, so the two stay **in lockstep**: the
same decisions on both sides, and on either side as many calls to the observer as it likes in
between.  There is one rule for each way to build an action, and one lemma for each action of a
pass.  What the backend is asked for may differ in the metadata of new tasks; that this makes no
difference to the answers is what has to be known of it (`Backend.IsIndifferent`).  Main definition:
`Lockstep`; main statement: `Lockstep.reconcile`.
-/

namespace DeployChecks

open List (Forall₂)
open Trace (Context SpanEvent SpanStatus)

/-! ## Tasks up to their metadata -/

namespace Task

/-- A task with other metadata. -/
def withMetadata (t : Task) (metadata : StringMap String) : Task :=
  { t with spec := { t.spec with context := { t.spec.context with metadata } } }

/-- **Two tasks agree**, but for their metadata. -/
def Agrees (t t' : Task) : Prop := ∃ metadata, t' = t.withMetadata metadata

end Task

/-- The same pass in another context. -/
def Pass.within (p : Pass) (context : Context) : Pass := { p with context }

/-- **Two answers agree**, if the tasks do that are given. -/
inductive Agreement : Option (Except StoreError Task) → Option (Except StoreError Task) → Prop
  /-- There is none. -/
  | dropped : Agreement none none
  /-- The same error. -/
  | failed (err : StoreError) : Agreement (some (.error err)) (some (.error err))
  /-- Tasks that agree. -/
  | given {t t' : Task} (agrees : t.Agrees t') : Agreement (some (.ok t)) (some (.ok t'))

/-- **Metadata makes no difference to a backend.**  States may differ in the metadata of the tasks
that they hold; as long as they are alike, so are the answers and the states after them. -/
structure Backend.IsIndifferent {σ : Type} (b : Backend σ) (Alike : σ → σ → Prop) : Prop where
  /-- The token. -/
  isCancelled : ∀ {s s'}, Alike s s' → (b.isCancelled s).1 = (b.isCancelled s').1 ∧
    Alike (b.isCancelled s).2 (b.isCancelled s').2
  /-- Asking for a task. -/
  get : ∀ ns name {s s'}, Alike s s' →
    Agreement (b.get ns name s).1.1 (b.get ns name s').1.1 ∧
      Alike (b.get ns name s).2 (b.get ns name s').2
  /-- Creating one, with other metadata. -/
  create : ∀ {t t'}, t.Agrees t' → ∀ {s s'}, Alike s s' →
    Agreement (b.create t s).1.1 (b.create t' s').1.1 ∧
      Alike (b.create t s).2 (b.create t' s').2
  /-- Resolving a definition. -/
  resolve : ∀ name ns {s s'}, Alike s s' →
    (b.resolve name ns s).1.1 = (b.resolve name ns s').1.1 ∧
      Alike (b.resolve name ns s).2 (b.resolve name ns s').2
  /-- The time. -/
  now : ∀ {s s'}, Alike s s' → (b.now s).1 = (b.now s').1 ∧ Alike (b.now s).2 (b.now s').2
  /-- The random numbers. -/
  draw : ∀ {s s'}, Alike s s' → (b.draw s).1 = (b.draw s').1 ∧ Alike (b.draw s).2 (b.draw s').2

/-! ## Decisions -/

/-- **The decisions of a journal**: the calls to the backend. -/
def decisions (journal : List Entry) : List Call :=
  (journal.filterMap Entry.call?).filter Call.isDeciding

@[simp] theorem decisions_append (l l' : List Entry) :
    decisions (l ++ l') = decisions l ++ decisions l' := by simp [decisions]

@[simp] theorem decisions_note (r : Log.Record) (l : List Entry) :
    decisions (.note r :: l) = decisions l := rfl

@[simp] theorem decisions_notes (l : List Log.Record) : decisions (l.map .note) = [] := by
  induction l with
  | nil => rfl
  | cons r l ih => exact ih

theorem decisions_call (c : Call) (l : List Entry) :
    decisions (.call c :: l) = (if c.isDeciding then [c] else []) ++ decisions l := by
  cases decides : c.isDeciding <;> simp [decisions, Entry.call?, decides]

/-- **The same call**, or the creation of tasks that are alike. -/
inductive Call.Like (T : Task → Task → Prop) : Call → Call → Prop
  /-- Asking for a task. -/
  | get (ns name : String) : Like T (.get ns name) (.get ns name)
  /-- Resolving a definition. -/
  | resolve (name ns : String) : Like T (.resolve name ns) (.resolve name ns)
  /-- Creating a task. -/
  | create {t t' : Task} (like : T t t') : Like T (.create t) (.create t')

theorem Call.Like.eq {c c' : Call} (like : c.Like Eq c') : c = c' := by
  cases like with
  | get | resolve => rfl
  | create same => rw [same]

/-! ## Quiet actions -/

section

variable {σ τ α β : Type}

/-- **A quiet action** decides nothing. -/
def Run.Quiet (x : Run σ τ α) : Prop :=
  ∀ w, (x w).2.backend = w.backend ∧ decisions (x w).2.journal = decisions w.journal

namespace Run.Quiet

theorem pure (a : α) : Quiet (pure a : Run σ τ α) := fun _ => ⟨rfl, rfl⟩

theorem bind {x : Run σ τ α} {f : α → Run σ τ β} (hx : x.Quiet) (hf : ∀ a, (f a).Quiet) :
    (x >>= f).Quiet := fun w =>
  ⟨(hf _ _).1.trans (hx w).1, (hf _ _).2.trans (hx w).2⟩

theorem note (r : Log.Record) : Quiet (note r : Run σ τ Unit) := fun _ =>
  ⟨rfl, (decisions_append _ _).trans (List.append_nil _)⟩

theorem write_call {c : Call} (watches : c.isDeciding = false) :
    Quiet (write (.call c) : Run σ τ Unit) := fun w => by
  refine ⟨rfl, (decisions_append _ _).trans ?_⟩
  rw [decisions_call, watches]
  exact List.append_nil _

theorem watch {c : Call} (watches : c.isDeciding = false) (x : Act τ α) :
    Quiet (watch c x : Run σ τ α) := fun w => by
  simp [Run.watch, decisions_call, watches]

theorem mark (x : StateM τ Unit) : Quiet (mark x : Run σ τ Unit) := fun _ => ⟨rfl, rfl⟩

end Run.Quiet

namespace Engine

variable (e : Engine σ τ)

theorem quiet_emit (event : PhaseEvent) : (e.emit event).Quiet := by
  refine .bind (.watch rfl _) fun answer => ?_
  cases answer with
  | ok => exact .pure ()
  | error err => exact .note _

theorem quiet_unbindSpan (key : SpanKey) (task : String) : (e.unbindSpan key task).Quiet := by
  refine .bind (.watch rfl _) fun answer => ?_
  cases answer with
  | ok => exact .pure ()
  | error err => exact .note _

theorem quiet_taskSpan (p : Pass) (t : Task) : (e.taskSpan p t).Quiet := by
  refine .bind (.watch rfl _) fun answer => ?_
  cases answer with
  | ok context => exact .pure context
  | error err => exact .bind (.note _) fun _ => .pure _

theorem quiet_addEvents (context : Context) : ∀ events, (e.addEvents context events).Quiet
  | [] => .pure ()
  | _ :: rest => .bind (.mark _) fun _ => quiet_addEvents context rest

theorem quiet_closeSpan (key : SpanKey) (context : Context) (events : List SpanEvent)
    (status : SpanStatus) : (e.closeSpan key context events status).Quiet :=
  .bind (.write_call rfl) fun _ => .bind (e.quiet_addEvents context events) fun _ =>
    .bind (.mark _) fun _ => .mark _

theorem quiet_closeVanished (ns task : String) : (e.closeVanished ns task).Quiet := by
  refine .bind (.watch rfl _) fun answer => ?_
  cases answer with
  | none => exact e.quiet_unbindSpan _ _
  | some context => exact .bind (e.quiet_closeSpan _ _ _ _) fun _ => e.quiet_unbindSpan _ _

theorem quiet_interrupted (p : Pass) (definition : String) (i : Interruption)
    (statuses : List ItemStatus) :
    (interrupted p definition i statuses : Run σ τ PassError).Quiet := by
  cases i <;> exact .bind (.note _) fun _ => .pure _

theorem quiet_unresolved (p : Pass) (err : ResolveError) (x : ItemStatus) :
    (unresolved p err x : Run σ τ Outcome).Quiet := by
  unfold unresolved
  split <;> exact .bind (.note _) fun _ => .pure _

end Engine

end

/-! ## Lockstep -/

section

variable {σ τ τ' α α' β β' : Type}

/-- **Two worlds abreast**: their backends are alike, and the decisions so far as well. -/
structure Abreast (T : Task → Task → Prop) (Alike : σ → σ → Prop) (w : World σ τ)
    (w' : World σ τ') : Prop where
  /-- The states of what decides. -/
  backend : Alike w.backend w'.backend
  /-- The decisions. -/
  decisions : Forall₂ (Call.Like T) (decisions w.journal) (decisions w'.journal)

/-- **Two actions in lockstep**: from worlds abreast they come to worlds abreast, with answers that
are related. -/
def Lockstep (T : Task → Task → Prop) (Alike : σ → σ → Prop) (A : α → α' → Prop)
    (x : Run σ τ α) (y : Run σ τ' α') : Prop :=
  ∀ w w', Abreast T Alike w w' → A (x w).1 (y w').1 ∧ Abreast T Alike (x w).2 (y w').2

namespace Lockstep

variable {T : Task → Task → Prop} {Alike : σ → σ → Prop} {A : α → α' → Prop} {B : β → β' → Prop}

theorem pure {a : α} {a' : α'} (h : A a a') :
    Lockstep T Alike A (pure a : Run σ τ α) (pure a' : Run σ τ' α') := fun _ _ abreast =>
  ⟨h, abreast⟩

theorem bind {x : Run σ τ α} {y : Run σ τ' α'} {f : α → Run σ τ β} {g : α' → Run σ τ' β'}
    (first : Lockstep T Alike A x y)
    (second : ∀ a a', A a a' → Lockstep T Alike B (f a) (g a')) :
    Lockstep T Alike B (x >>= f) (y >>= g) := fun w w' abreast =>
  second _ _ (first w w' abreast).1 _ _ (first w w' abreast).2

/-- Quiet actions with answers that are related. -/
theorem of_quiet {x : Run σ τ α} {y : Run σ τ' α'} (quiet : x.Quiet) (quiet' : y.Quiet)
    (related : ∀ w w', A (x w).1 (y w').1) : Lockstep T Alike A x y := fun w w' abreast => by
  refine ⟨related w w', ?_, ?_⟩
  · rw [(quiet w).1, (quiet' w').1]
    exact abreast.backend
  · rw [(quiet w).2, (quiet' w').2]
    exact abreast.decisions

/-- A quiet action on the one side. -/
theorem left {x : Run σ τ α} {f : α → Run σ τ β} {y : Run σ τ' β'} (quiet : x.Quiet)
    (rest : ∀ a, Lockstep T Alike B (f a) y) : Lockstep T Alike B (x >>= f) y :=
  fun w w' abreast => by
    refine rest _ _ w' ⟨?_, ?_⟩
    · rw [(quiet w).1]
      exact abreast.backend
    · rw [(quiet w).2]
      exact abreast.decisions

/-- A quiet action on the other side. -/
theorem right {x : Run σ τ β} {y : Run σ τ' α'} {g : α' → Run σ τ' β'} (quiet : y.Quiet)
    (rest : ∀ a, Lockstep T Alike B x (g a)) : Lockstep T Alike B x (y >>= g) :=
  fun w w' abreast => by
    refine rest _ w _ ⟨?_, ?_⟩
    · rw [(quiet w').1]
      exact abreast.backend
    · rw [(quiet w').2]
      exact abreast.decisions

theorem sample {x : StateM σ α}
    (same : ∀ {s s'}, Alike s s' → (x s).1 = (x s').1 ∧ Alike (x s).2 (x s').2) :
    Lockstep T Alike Eq (Run.sample x : Run σ τ α) (Run.sample x : Run σ τ' α) :=
  fun _ _ abreast =>
    have ⟨answer, backend⟩ := same abreast.backend
    ⟨answer, backend, abreast.decisions⟩

theorem decide {c c' : Call} {x y : Act σ α} {A : α → α → Prop} (like : c.Like T c')
    (related : ∀ {s s'}, Alike s s' → A (x s).1.1 (y s').1.1 ∧ Alike (x s).2 (y s').2) :
    Lockstep T Alike A (Run.decide c x : Run σ τ α) (Run.decide c' y : Run σ τ' α) := by
  intro w w' abreast
  obtain ⟨answer, backend⟩ := related abreast.backend
  refine ⟨answer, backend, ?_⟩
  have deciding : c.isDeciding = true ∧ c'.isDeciding = true := by cases like <;> exact ⟨rfl, rfl⟩
  simp only [Run.decide, decisions_append, decisions_call, deciding, decisions_notes, if_true,
    List.append_nil]
  exact List.rel_append abreast.decisions (.cons like .nil)

end Lockstep

end

/-! ## The actions of a pass -/

namespace Lockstep

variable {σ τ τ' : Type} {T : Task → Task → Prop} {Alike : σ → σ → Prop} {b : Backend σ}
  {o : Observer τ} {o' : Observer τ'} {p : Pass} {context : Context}

theorem unresolved (err : ResolveError) (x : ItemStatus) :
    Lockstep T Alike Eq (Engine.unresolved p err x : Run σ τ Outcome)
      (Engine.unresolved (p.within context) err x : Run σ τ' Outcome) :=
  .of_quiet (Engine.quiet_unresolved _ _ _) (Engine.quiet_unresolved _ _ _) fun _ _ => by
    rw [Engine.unresolved_fst, Engine.unresolved_fst]

theorem interrupted (definition : String) (i : Interruption) (statuses : List ItemStatus) :
    Lockstep T Alike Eq (Engine.interrupted p definition i statuses : Run σ τ PassError)
      (Engine.interrupted (p.within context) definition i statuses : Run σ τ' PassError) :=
  .of_quiet (Engine.quiet_interrupted _ _ _ _) (Engine.quiet_interrupted _ _ _ _) fun _ _ => by
    rw [Engine.interrupted_fst, Engine.interrupted_fst]

section

variable (indifferent : b.IsIndifferent Alike)

include indifferent

/-- A call that the token cancels. -/
theorem guarded {α : Type} {c c' : Call} {x y : Act σ (Option α)} {A : Option α → Option α → Prop}
    (like : c.Like T c')
    (related : ∀ {s s'}, Alike s s' → A (x s).1.1 (y s').1.1 ∧ Alike (x s).2 (y s').2)
    (dropped : A none none) :
    Lockstep T Alike A (Engine.guarded ⟨b, o⟩ c x) (Engine.guarded ⟨b, o'⟩ c' y) := by
  refine .bind (.sample indifferent.isCancelled) ?_
  rintro cancelled _ rfl
  cases cancelled with
  | true => exact .pure dropped
  | false => exact .decide like related

theorem noteOperation (operation operation' : Log.TaskOperation) :
    Lockstep T Alike (fun _ _ => True) (Engine.noteOperation ⟨b, o⟩ operation)
      (Engine.noteOperation ⟨b, o'⟩ operation') :=
  .bind (.sample indifferent.now) fun _ _ _ => .of_quiet (.note _) (.note _) fun _ _ => trivial

theorem announce (phase : Phase) (severity : Severity) (reason message : String) :
    Lockstep T Alike (fun _ _ => True) (Engine.announce ⟨b, o⟩ p phase severity reason message)
      (Engine.announce ⟨b, o'⟩ (p.within context) phase severity reason message) :=
  .bind (.sample indifferent.now) fun _ _ _ =>
    .of_quiet (Engine.quiet_emit _ _) (Engine.quiet_emit _ _) fun _ _ => trivial

theorem announceChange (definition : String) (previous : Option TaskState) (current : TaskState) :
    Lockstep T Alike (fun _ _ => True)
      (Engine.announceChange ⟨b, o⟩ p definition previous current)
      (Engine.announceChange ⟨b, o'⟩ (p.within context) definition previous current) := by
  unfold Engine.announceChange
  split
  · exact .pure trivial
  · exact announce indifferent _ _ _ _

/-- A task is read back: of the span nothing reaches the entry. -/
theorem refresh {t t' : Task} (agrees : t.Agrees t') (x : ItemStatus) :
    Lockstep T Alike Eq (Engine.refresh ⟨b, o⟩ p t x)
      (Engine.refresh ⟨b, o'⟩ (p.within context) t' x) := by
  obtain ⟨metadata, rfl⟩ := agrees
  refine .left (Engine.quiet_taskSpan _ _ _) fun c => .right (Engine.quiet_taskSpan _ _ _)
    fun c' => ?_
  dsimp only
  rw [show (t.withMetadata metadata).state = t.state from rfl]
  split
  · refine .left (Engine.quiet_closeSpan _ _ _ _ _) fun _ => .right
      (Engine.quiet_closeSpan _ _ _ _ _) fun _ => .left (Engine.quiet_unbindSpan _ _ _) fun _ =>
        .right (Engine.quiet_unbindSpan _ _ _) fun _ => .bind (.sample indifferent.now) ?_
    rintro now _ rfl
    exact .bind (noteOperation indifferent _ _) fun _ _ _ => .pure rfl
  · exact .pure rfl

/-- A new task is welcomed: that its span cannot be opened is only noted. -/
theorem welcome {t t' : Task} (agrees : t.Agrees t') (x : ItemStatus) :
    Lockstep T Alike Eq (Engine.welcome ⟨b, o⟩ p t x)
      (Engine.welcome ⟨b, o'⟩ (p.within context) t' x) := by
  obtain ⟨metadata, rfl⟩ := agrees
  refine .bind (.sample indifferent.now) ?_
  rintro now _ rfl
  refine .left (.watch rfl _) fun answer => .right (.watch rfl _) fun answer' => ?_
  cases answer <;> cases answer'
  · exact .left (.note _) fun _ => .right (.note _) fun _ =>
      .bind (noteOperation indifferent _ _) fun _ _ _ => .pure rfl
  · exact .left (.note _) fun _ => .bind (noteOperation indifferent _ _) fun _ _ _ => .pure rfl
  · exact .right (.note _) fun _ => .bind (noteOperation indifferent _ _) fun _ _ _ => .pure rfl
  · exact .bind (noteOperation indifferent _ _) fun _ _ _ => .pure rfl

theorem createFailed (task task' : String) (err : StoreError) (x : ItemStatus) :
    Lockstep T Alike Eq (Engine.createFailed ⟨b, o⟩ p task err x)
      (Engine.createFailed ⟨b, o'⟩ (p.within context) task' err x) :=
  .left (.note _) fun _ => .right (.note _) fun _ =>
    .bind (announce indifferent _ _ _ _) fun _ _ _ => .pure rfl

variable (stamps : ∀ d draw, T (p.stamp d draw) ((p.within context).stamp d draw))

include stamps

/-- The creations of a task are in lockstep. -/
theorem create (x : ItemStatus) :
    Lockstep T Alike Eq (Engine.create ⟨b, o⟩ p x)
      (Engine.create ⟨b, o'⟩ (p.within context) x) := by
  refine .bind (guarded (A := Eq) indifferent (.resolve _ _) (indifferent.resolve _ _) rfl) ?_
  rintro answer _ rfl
  match answer with
  | none => exact .pure rfl
  | some (.error err) => exact .bind (unresolved err x) fun _ _ same => .pure (congrArg _ same)
  | some (.ok d) =>
    refine .bind (.sample indifferent.draw) ?_
    rintro draw _ rfl
    refine .bind (guarded (A := Agreement) indifferent (.create (stamps d draw))
      (indifferent.create ⟨_, rfl⟩) .dropped) ?_
    rintro _ _ (_ | err | agrees)
    · exact .pure rfl
    · exact .bind (createFailed indifferent _ _ err x) fun _ _ same => .pure (congrArg _ same)
    · exact .bind (welcome indifferent agrees x) fun _ _ same => .pure (congrArg _ same)

/-- A lost task is replaced: whether its span is found makes no difference. -/
theorem replace (x : ItemStatus) :
    Lockstep T Alike Eq (Engine.replace ⟨b, o⟩ p x)
      (Engine.replace ⟨b, o'⟩ (p.within context) x) :=
  .left (.note _) fun _ => .right (.note _) fun _ =>
    .left (Engine.quiet_closeVanished _ _ _) fun _ =>
      .right (Engine.quiet_closeVanished _ _ _) fun _ => create indifferent stamps _

/-- **The visits of an entry are in lockstep.** -/
theorem visit (x : ItemStatus) :
    Lockstep T Alike Eq (Engine.visit ⟨b, o⟩ p x)
      (Engine.visit ⟨b, o'⟩ (p.within context) x) := by
  unfold Engine.visit
  split
  · exact .pure rfl
  split
  · refine .bind (guarded (A := Agreement) indifferent (.get _ _) (indifferent.get _ _) .dropped) ?_
    rintro _ _ (_ | err | agrees)
    · exact .pure rfl
    · dsimp only
      split
      · exact replace indifferent stamps x
      · exact .pure rfl
    · exact .bind (refresh indifferent agrees x) fun _ _ same => .pure (congrArg _ same)
  · exact create indifferent stamps x

theorem visitUnlessCancelled (x : ItemStatus) :
    Lockstep T Alike Eq (Engine.visitUnlessCancelled ⟨b, o⟩ p x)
      (Engine.visitUnlessCancelled ⟨b, o'⟩ (p.within context) x) := by
  refine .bind (.sample indifferent.isCancelled) ?_
  rintro cancelled _ rfl
  cases cancelled with
  | true => exact .pure rfl
  | false => exact visit indifferent stamps x

theorem visitAll (prior : List ItemStatus) (definitions : List String) (r : Reconciliation) :
    Lockstep T Alike Eq (Engine.visitAll ⟨b, o⟩ p prior r definitions)
      (Engine.visitAll ⟨b, o'⟩ (p.within context) prior r definitions) := by
  induction definitions generalizing r with
  | nil => exact .left (.note _) fun _ => .right (.note _) fun _ => .pure rfl
  | cons definition rest ih =>
    refine .bind (visitUnlessCancelled indifferent stamps _) ?_
    rintro answer _ rfl
    cases answer with
    | ok outcome => exact .bind (announceChange indifferent _ _ _) fun _ _ _ => ih _
    | error i => exact .bind (interrupted _ _ _) fun _ _ same => .pure (congrArg _ same)

/-- **Two passes are in lockstep**, whoever watches them. -/
theorem reconcile :
    Lockstep T Alike Eq (Engine.reconcile ⟨b, o⟩ p)
      (Engine.reconcile ⟨b, o'⟩ (p.within context)) :=
  visitAll indifferent stamps _ _ _

end

end Lockstep

end DeployChecks
