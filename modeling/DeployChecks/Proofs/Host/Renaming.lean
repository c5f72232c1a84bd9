import DeployChecks.Proofs.Host.Repeat
import DeployChecks.Proofs.Keyed
import Mathlib.Data.List.Forall2
import Mathlib.Logic.Equiv.Basic

/-!
# Proofs/Host/Renaming — the same work under other names

The names of new tasks are drawn at random, so two passes that do the same work leave it under
different names.  They are compared along a permutation of names `ρ`: what stands under a name in
the first stands under its image in the second.  A span is told from another by its place and not by
its name, and the name in its record is the only one that `ρ` changes.  Main definitions:
`Desk.Alike` and `ItemStatus.Alike`; main statements: `exists_renaming`, `Works.alike`.
-/

namespace DeployChecks

open List (Forall₂)
open Trace (Context SpanEvent SpanStatus Tracer)

/-! ## Collections under other keys -/

namespace Keyed

variable {κ α : Type} {f : κ → κ} {inj : Function.Injective f} {g : α → α} {m : Keyed κ α}

theorem ext_toList {m m' : Keyed κ α} (h : m.toList = m'.toList) : m = m' := by
  obtain ⟨l, nodup⟩ := m
  obtain ⟨l', nodup'⟩ := m'
  obtain rfl : l = l' := h
  rfl

/-- **The entries under other keys**, with other values. -/
def relabel (f : κ → κ) (inj : Function.Injective f) (g : α → α) (m : Keyed κ α) : Keyed κ α where
  toList := m.toList.map fun e => (f e.1, g e.2)
  nodup := by simpa [Function.comp_def] using m.nodup.map inj

/-- Entries that are not changed make the same collection. -/
theorem relabel_eq_self (same : ∀ e ∈ m.toList, f e.1 = e.1 ∧ g e.2 = e.2) :
    m.relabel f inj g = m :=
  ext_toList <| (List.map_congr_left fun e he => Prod.ext (same e he).1 (same e he).2).trans
    (List.map_id _)

variable [DecidableEq κ] (k : κ)

theorem find?_relabel : (m.relabel f inj g).find? (f k) = (m.find? k).map g := by
  have keys : ((fun e => decide (e.1 = f k)) ∘ fun e : κ × α => (f e.1, g e.2))
      = fun e => decide (e.1 = k) := by
    funext e
    simp [inj.eq_iff]
  rw [find?, find?, relabel, List.find?_map, keys, Option.map_map, Option.map_map]
  rfl

theorem relabel_insert (v : α) :
    (m.insert k v).relabel f inj g = (m.relabel f inj g).insert (f k) (g v) := by
  have list : ∀ l : List (κ × α), (insertList k v l).map (fun e => (f e.1, g e.2))
      = insertList (f k) (g v) (l.map fun e => (f e.1, g e.2)) := by
    intro l
    induction l with
    | nil => rfl
    | cons e rest ih =>
      rw [List.map_cons, insertList, insertList]
      by_cases same : e.1 = k
      · rw [if_pos same, if_pos (congrArg f same), List.map_cons]
      · rw [if_neg same, if_neg fun h => same (inj h), List.map_cons, ih]
  exact ext_toList (list m.toList)

theorem relabel_erase : (m.erase k).relabel f inj g = (m.relabel f inj g).erase (f k) := by
  refine ext_toList ?_
  simp only [erase, relabel, List.filter_map]
  congr 2
  funext e
  simp [inj.eq_iff]

end Keyed

/-! ## Renaming -/

section

variable (ρ : Equiv.Perm String)

/-- The key of a renamed task. -/
def TaskKey.rename (k : TaskKey) : TaskKey := { k with name := ρ k.name }

/-- **A renamed task.** -/
def Task.rename (t : Task) : Task := { t with name := ρ t.name }

/-- The key of the span of a renamed task. -/
def SpanKey.rename (k : SpanKey) : SpanKey := { k with name := ρ k.name }

/-- A named value of the span of a renamed task. -/
def Trace.Attribute.rename (a : Trace.Attribute) : Trace.Attribute :=
  if a.1 = "keptn.deployment.task.name" then (a.1, ρ a.2) else a

/-- **The record of the span of a renamed task.** -/
def Trace.Span.rename (s : Trace.Span) : Trace.Span :=
  { s with attributes := s.attributes.map (Attribute.rename ρ) }

theorem TaskKey.rename_injective : Function.Injective (TaskKey.rename ρ) := by
  intro k k' same
  obtain ⟨ns, name⟩ := TaskKey.mk.inj same
  rw [show k = ⟨k.ns, k.name⟩ from rfl, ns, ρ.injective name]

theorem SpanKey.rename_injective : Function.Injective (SpanKey.rename ρ) := by
  intro k k' same
  obtain ⟨kind, ns, name, label⟩ := SpanKey.mk.inj same
  rw [show k = ⟨k.kind, k.ns, k.name, k.label⟩ from rfl, kind, ns, ρ.injective name, label]

variable {ρ}

theorem TaskKey.rename_of_fixed {k : TaskKey} (fixed : ρ k.name = k.name) : k.rename ρ = k := by
  rw [rename, fixed]

theorem SpanKey.rename_of_fixed {k : SpanKey} (fixed : ρ k.name = k.name) : k.rename ρ = k := by
  rw [rename, fixed]

theorem Task.rename_of_fixed {t : Task} (fixed : ρ t.name = t.name) : t.rename ρ = t := by
  rw [rename, fixed]

/-- A task of another random number is the same, renamed. -/
theorem Pass.rename_stamp (p : Pass) (t : TaskDefinition) {draw draw' : Nat}
    (name : ρ (p.stamp t draw).name = (p.stamp t draw').name) :
    (p.stamp t draw).rename ρ = p.stamp t draw' := by
  rw [Task.rename, name]
  rfl

variable (ρ)

theorem Task.spanAttributes_rename (t : Task) :
    (t.rename ρ).spanAttributes = t.spanAttributes.map (Trace.Attribute.rename ρ) := by
  simp [spanAttributes, rename, Trace.Attribute.rename]

end

/-- **There is a renaming** that keeps known names and takes new names to others, one by one. -/
theorem exists_renaming (known : List String) :
    ∀ {names names' : List String}, names.Nodup → names'.Nodup → (∀ n ∈ names, n ∉ known) →
      (∀ n ∈ names', n ∉ known) →
      ∃ ρ : Equiv.Perm String, (∀ n ∈ known, ρ n = n) ∧ ∀ q ∈ names.zip names', ρ q.1 = q.2
  | [], _, _, _, _, _ => ⟨.refl _, fun _ _ => rfl, fun q hq => absurd hq (by simp)⟩
  | _ :: _, [], _, _, _, _ => ⟨.refl _, fun _ _ => rfl, fun q hq => absurd hq (by simp)⟩
  | a :: names, b :: names', nodup, nodup', new, new' => by
    obtain ⟨first, nodup⟩ := List.nodup_cons.1 nodup
    obtain ⟨first', nodup'⟩ := List.nodup_cons.1 nodup'
    obtain ⟨ρ, fixed, agree⟩ := exists_renaming known nodup nodup'
      (fun n hn => new n (List.mem_cons_of_mem _ hn))
      (fun n hn => new' n (List.mem_cons_of_mem _ hn))
    refine ⟨ρ.trans (.swap (ρ a) b), fun n hn => ?_, fun q hq => ?_⟩
    · have other : n ≠ a := fun e => new a List.mem_cons_self (e ▸ hn)
      have other' : n ≠ b := fun e => new' b List.mem_cons_self (e ▸ hn)
      rw [Equiv.trans_apply, Equiv.swap_apply_of_ne_of_ne (fun e => other (ρ.injective e)),
        fixed n hn]
      rwa [fixed n hn]
    · rw [Equiv.trans_apply]
      obtain rfl | hq := List.mem_cons.1 hq
      · exact Equiv.swap_apply_left _ _
      · obtain ⟨left, right⟩ := List.of_mem_zip hq
        rw [Equiv.swap_apply_of_ne_of_ne, agree q hq]
        · exact fun e => first (ρ.injective e ▸ left)
        · rw [agree q hq]
          exact fun e => first' (e ▸ right)

/-! ## Records that are alike -/

namespace Trace

variable {ρ : Equiv.Perm String}

/-- **Two records are alike** if they are the same, renamed or not.  What was recorded before keeps
its name. -/
def Span.Alike (ρ : Equiv.Perm String) (a b : Span) : Prop := b = a ∨ b = a.rename ρ

namespace Span.Alike

variable {a b : Span}

theorem ended (h : Span.Alike ρ a b) : b.ended = a.ended := by
  obtain rfl | rfl := h <;> rfl

/-- What commutes with renaming keeps records alike. -/
theorem map {f : Span → Span} (commutes : ∀ s, f (s.rename ρ) = (f s).rename ρ)
    (h : Span.Alike ρ a b) : Span.Alike ρ (f a) (f b) := by
  obtain rfl | rfl := h
  · exact .inl rfl
  · exact .inr (commutes a)

theorem addEvent (event : SpanEvent) (h : Span.Alike ρ a b) :
    Span.Alike ρ (a.addEvent event) (b.addEvent event) :=
  h.map (f := (·.addEvent event)) fun s => by
    unfold Span.addEvent Span.rename
    dsimp only
    split <;> rfl

theorem setStatus (status : SpanStatus) (h : Span.Alike ρ a b) :
    Span.Alike ρ (a.setStatus status) (b.setStatus status) :=
  h.map (f := (·.setStatus status)) fun s => by
    unfold Span.setStatus Span.rename
    dsimp only
    split <;> rfl

end Span.Alike

/-- **Two tracers are alike**: they have recorded and exported records that are alike, in the same
order. -/
structure Tracer.Alike (ρ : Equiv.Perm String) (t u : Tracer) : Prop where
  /-- New identities come from the same place. -/
  ids : u.ids = t.ids
  /-- The same traces are recorded. -/
  sampler : u.sampler = t.sampler
  /-- As many spans were started. -/
  started : u.started = t.started
  /-- The records. -/
  spans : Forall₂ (Span.Alike ρ) t.spans u.spans
  /-- The records that were exported. -/
  exported : Forall₂ (Span.Alike ρ) t.exported u.exported
  /-- Both are shut down, or none. -/
  isShutDown : u.isShutDown = t.isShutDown

theorem forall₂_modify {R : Span → Span → Prop} {f g : Span → Span}
    (step : ∀ a b, R a b → R (f a) (g b)) {l l' : List Span} (h : Forall₂ R l l') :
    ∀ n, Forall₂ R (l.modify n f) (l'.modify n g) := by
  induction h with
  | nil =>
    intro n
    rw [List.modify_nil, List.modify_nil]
    exact .nil
  | cons head tail ih =>
    rintro (_ | n)
    · exact .cons (step _ _ head) tail
    · exact .cons head (ih n)

theorem forall₂_getElem? {R : Span → Span → Prop} {l l' : List Span} (h : Forall₂ R l l') :
    ∀ n : Nat, Option.Rel R l[n]? l'[n]? := by
  induction h with
  | nil => exact fun _ => .none
  | cons head _ ih =>
    rintro (_ | n)
    · exact .some head
    · exact ih n

namespace Tracer.Alike

variable {t u : Tracer}

theorem refl (t : Tracer) : Alike ρ t t where
  ids := rfl
  sampler := rfl
  started := rfl
  spans := List.forall₂_same.2 fun _ _ => .inl rfl
  exported := List.forall₂_same.2 fun _ _ => .inl rfl
  isShutDown := rfl

theorem change (h : Alike ρ t u) (handle : Option Nat) {f g : Span → Span}
    (step : ∀ a b, Span.Alike ρ a b → Span.Alike ρ (f a) (g b)) :
    Alike ρ (t.change handle f) (u.change handle g) := by
  cases handle with
  | none => exact h
  | some n => exact { h with spans := forall₂_modify step h.spans n }

theorem addEvent (h : Alike ρ t u) (c : Context) (event : SpanEvent) :
    Alike ρ (t.addEvent c event) (u.addEvent c event) :=
  h.change c.handle fun _ _ alike => alike.addEvent event

theorem addEvents (c : Context) (events : List SpanEvent) (h : Alike ρ t u) :
    Alike ρ (events.foldl (fun t event => t.addEvent c event) t)
      (events.foldl (fun t event => t.addEvent c event) u) := by
  induction events generalizing t u with
  | nil => exact h
  | cons event _ ih => exact ih (h.addEvent c event)

theorem setStatus (h : Alike ρ t u) (c : Context) (status : SpanStatus) :
    Alike ρ (t.setStatus c status) (u.setStatus c status) :=
  h.change c.handle fun _ _ alike => alike.setStatus status

/-- The same spans are open. -/
theorem openSpan? (h : Alike ρ t u) (c : Context) :
    Option.Rel (Span.Alike ρ) (t.openSpan? c) (u.openSpan? c) := by
  have kept : ∀ {a b : Option Span}, Option.Rel (Span.Alike ρ) a b →
      Option.Rel (Span.Alike ρ) (a.filter fun s => !s.ended) (b.filter fun s => !s.ended) := by
    rintro _ _ (alike | _)
    · rw [Option.filter_some, Option.filter_some, alike.ended]
      split
      · exact .some alike
      · exact .none
    · exact .none
  unfold Tracer.openSpan?
  cases c.handle with
  | none => exact .none
  | some n => exact kept (forall₂_getElem? h.spans n)

theorem finish (h : Alike ρ t u) (c : Context) : Alike ρ (t.finish c) (u.finish c) := by
  have opened := h.openSpan? c
  unfold Tracer.finish
  generalize t.openSpan? c = a, u.openSpan? c = b at opened
  cases opened with
  | none => exact h
  | some alike =>
    have ended := alike.map (f := fun s => { s with ended := true }) fun _ => rfl
    have changed := h.change c.handle (f := fun _ => _) (g := fun _ => _) fun _ _ _ => ended
    exact { changed with exported := List.rel_append h.exported (.cons ended .nil) }

/-- **A span is started** in both, with the same context, if its name is changed. -/
theorem start (h : Alike ρ t u) (name : String) (kind : SpanKind) (parent : Context)
    (attributes : List Attribute) :
    (u.start name kind parent (attributes.map (Attribute.rename ρ))).1
        = (t.start name kind parent attributes).1 ∧
      Alike ρ (t.start name kind parent attributes).2
        (u.start name kind parent (attributes.map (Attribute.rename ρ))).2 := by
  unfold Tracer.start
  rw [h.isShutDown, h.ids, h.sampler, h.started]
  split
  · exact ⟨rfl, h⟩
  dsimp only
  rw [h.spans.length_eq]
  split
  · refine ⟨rfl, rfl, rfl, rfl, List.rel_append h.spans (.cons (.inr ?_) .nil), h.exported, rfl⟩
    rw [Span.rename, List.map_take]
  · exact ⟨rfl, rfl, rfl, rfl, h.spans, h.exported, rfl⟩

end Tracer.Alike

end Trace

/-! ## Desks that are alike -/

variable {ρ : Equiv.Perm String}

/-- **Two registries are alike**: the same contexts are bound, under renamed keys, and their tracers
are alike. -/
structure SpanRegistry.Alike (ρ : Equiv.Perm String) (r q : SpanRegistry) : Prop where
  /-- The tracers. -/
  tracer : r.tracer.Alike ρ q.tracer
  /-- The contexts. -/
  bound : q.bound = r.bound.relabel (SpanKey.rename ρ) (SpanKey.rename_injective ρ) id

namespace SpanRegistry.Alike

variable {r q : SpanRegistry}

theorem lookup (h : Alike ρ r q) (k : SpanKey) : q.lookup (k.rename ρ) = r.lookup k := by
  rw [SpanRegistry.lookup, h.bound, Keyed.find?_relabel, Option.map_id]
  rfl

theorem bind (h : Alike ρ r q) (t : Task) (parent : Context) :
    (q.bind (t.rename ρ).spanKey parent (t.rename ρ).spanAttributes).1
        = (r.bind t.spanKey parent t.spanAttributes).1 ∧
      Alike ρ (r.bind t.spanKey parent t.spanAttributes).2
        (q.bind (t.rename ρ).spanKey parent (t.rename ρ).spanAttributes).2 := by
  rw [SpanRegistry.bind, SpanRegistry.bind, t.spanAttributes_rename,
    show (t.rename ρ).spanKey = t.spanKey.rename ρ from rfl, h.lookup]
  cases r.lookup t.spanKey with
  | some c => exact ⟨rfl, h⟩
  | none =>
    obtain ⟨context, tracer⟩ := h.tracer.start spanName .consumer parent t.spanAttributes
    refine ⟨context, tracer, ?_⟩
    dsimp only
    rw [h.bound, context, Keyed.relabel_insert]
    rfl

theorem close (h : Alike ρ r q) (c : Context) (events : List SpanEvent) (status : SpanStatus) :
    Alike ρ (r.close c events status) (q.close c events status) :=
  ⟨((h.tracer.addEvents c events).setStatus c status).finish c, h.bound⟩

theorem unbind (h : Alike ρ r q) (k : SpanKey) : Alike ρ (r.unbind k) (q.unbind (k.rename ρ)) := by
  rw [SpanRegistry.unbind, SpanRegistry.unbind, h.lookup]
  cases r.lookup k with
  | none => exact h
  | some c =>
    refine ⟨h.tracer.finish c, ?_⟩
    dsimp only
    rw [h.bound, Keyed.relabel_erase]

theorem vanish (h : Alike ρ r q) (ns : String) {task : String} (fixed : ρ task = task) :
    Alike ρ (r.vanish ns task) (q.vanish ns task) := by
  have key : (SpanKey.forTask ns task).rename ρ = .forTask ns task :=
    SpanKey.rename_of_fixed fixed
  have looked := h.lookup (.forTask ns task)
  have unbound : ∀ {r q : SpanRegistry}, Alike ρ r q →
      Alike ρ (r.unbind (.forTask ns task)) (q.unbind (.forTask ns task)) := fun alike => by
    have := alike.unbind (.forTask ns task)
    rwa [key] at this
  rw [key] at looked
  unfold SpanRegistry.vanish
  rw [looked]
  cases r.lookup (.forTask ns task) with
  | none => exact unbound h
  | some c => exact unbound (h.close c _ _)

theorem settle (h : Alike ρ r q) (parent : Context) {t : Task} (fixed : t.rename ρ = t) :
    Alike ρ (r.settle parent t) (q.settle parent t) := by
  obtain ⟨context, bound⟩ := h.bind t parent
  rw [fixed] at context bound
  have closed := bound.close (r.bind t.spanKey parent t.spanAttributes).1 (Pass.closing t).1
    (Pass.closing t).2
  have unbound := closed.unbind t.spanKey
  rw [show t.spanKey.rename ρ = (t.rename ρ).spanKey from rfl, fixed] at unbound
  rw [SpanRegistry.settle, SpanRegistry.settle, context]
  exact unbound

end SpanRegistry.Alike

/-- **Two desks are alike**: the tasks of the one are those of the other, renamed, and their spans
are alike. -/
structure Desk.Alike (ρ : Equiv.Perm String) (d e : Desk) : Prop where
  /-- The tasks. -/
  tasks : e.tasks = d.tasks.relabel (TaskKey.rename ρ) (TaskKey.rename_injective ρ) (Task.rename ρ)
  /-- The spans. -/
  spans : d.spans.Alike ρ e.spans

namespace Desk.Alike

variable {d e : Desk} {known : List String}

/-- A desk is like itself, if no name on it is changed. -/
theorem refl (named : d.Named known) (fixed : ∀ n ∈ known, ρ n = n) : Alike ρ d d := by
  refine ⟨(Keyed.relabel_eq_self fun q hq => ?_).symm, .refl _,
    (Keyed.relabel_eq_self fun q hq => ⟨?_, rfl⟩).symm⟩
  · obtain ⟨key, name⟩ := named.tasks q.1 q.2 (Keyed.find?_of_mem hq)
    rw [← key] at name ⊢
    exact ⟨TaskKey.rename_of_fixed (fixed _ name), Task.rename_of_fixed (fixed _ name)⟩
  · refine SpanKey.rename_of_fixed (fixed _ (named.keys q.1 ?_))
    rw [SpanRegistry.isBound_eq, SpanRegistry.lookup, Keyed.find?_of_mem hq]
    rfl

/-- Under a name that is not changed, the same task is found. -/
theorem find? (h : Alike ρ d e) (named : d.Named known) {ns task : String} (fixed : ρ task = task) :
    e.tasks.find? ⟨ns, task⟩ = d.tasks.find? ⟨ns, task⟩ := by
  have found : e.tasks.find? (TaskKey.rename ρ ⟨ns, task⟩)
      = (d.tasks.find? ⟨ns, task⟩).map (Task.rename ρ) := by
    rw [h.tasks, Keyed.find?_relabel]
  rw [TaskKey.rename_of_fixed fixed] at found
  rw [found]
  cases here : d.tasks.find? ⟨ns, task⟩ with
  | none => rfl
  | some t =>
    have name : t.name = task := congrArg TaskKey.name (named.tasks _ t here).1
    rw [Option.map_some, Task.rename_of_fixed (by rw [name, fixed])]

theorem bind (h : Alike ρ d e) (parent : Context) (t : Task) :
    Alike ρ (d.bind parent t) (e.bind parent (t.rename ρ)) := ⟨h.tasks, (h.spans.bind t parent).2⟩

theorem settle (h : Alike ρ d e) (parent : Context) {t : Task} (fixed : t.rename ρ = t) :
    Alike ρ (d.settle parent t) (e.settle parent t) := ⟨h.tasks, h.spans.settle parent fixed⟩

theorem vanish (h : Alike ρ d e) (ns : String) {task : String} (fixed : ρ task = task) :
    Alike ρ (d.vanish ns task) (e.vanish ns task) := ⟨h.tasks, h.spans.vanish ns fixed⟩

theorem add (h : Alike ρ d e) (parent : Context) (t : Task) :
    Alike ρ (d.add parent t) (e.add parent (t.rename ρ)) := by
  refine bind (d := ⟨d.tasks.insert t.key t, d.spans⟩)
    (e := ⟨e.tasks.insert (t.rename ρ).key (t.rename ρ), e.spans⟩) ⟨?_, h.spans⟩ parent t
  dsimp only
  rw [h.tasks, Keyed.relabel_insert]
  rfl

end Desk.Alike

/-! ## Work that is alike -/

/-- **Two entries are alike**: one is the other, renamed, and both have or have not been started
and ended. -/
structure ItemStatus.Alike (ρ : Equiv.Perm String) (x y : ItemStatus) : Prop where
  /-- The definition. -/
  definition : y.definition = x.definition
  /-- The task. -/
  task : y.task = ρ x.task
  /-- The state. -/
  state : y.state = x.state
  /-- The start. -/
  started : y.startTime.isSome = x.startTime.isSome
  /-- The end. -/
  ended : y.endTime.isSome = x.endTime.isSome

theorem ItemStatus.Alike.refl {x : ItemStatus} (fixed : ρ x.task = x.task) : Alike ρ x x :=
  ⟨rfl, fixed.symm, rfl, rfl, rfl⟩

/-- An entry that is given a task of one name or of the other. -/
theorem ItemStatus.Alike.assign (x : ItemStatus) {task task' : String} (name : ρ task = task')
    (now now' : Timestamp) :
    Alike ρ ({ x with task }.started now) ({ x with task := task' }.started now') := by
  refine ⟨rfl, name.symm, rfl, ?_, rfl⟩
  simp [ItemStatus.started]

variable {p : Pass} {defs : DefinitionRegistry} {x b b' : ItemStatus} {d d' e e' : Desk}
  {known names names' : List String}

/-- **Making a task is alike**, as soon as the names agree. -/
theorem Making.alike (making : Making p defs x d b names d')
    (making' : Making p defs x e b' names' e') (alike : d.Alike ρ e)
    (fixed : ρ x.task = x.task) :
    names.length = names'.length ∧
      ((∀ q ∈ names.zip names', ρ q.1 = q.2) → b.Alike ρ b' ∧ d'.Alike ρ e') := by
  cases making with
  | unresolved missing =>
    obtain ⟨rfl, rfl, rfl⟩ := making'.of_error missing
    exact ⟨rfl, fun _ => ⟨.refl fixed, alike⟩⟩
  | @made t draw now found =>
    obtain ⟨draw', now', rfl, rfl, rfl⟩ := making'.of_ok found
    refine ⟨by rw [List.length_singleton, List.length_singleton], fun agree => ?_⟩
    have name : ρ (p.stamp t draw).name = (p.stamp t draw').name :=
      agree (_, _) (List.mem_singleton_self _)
    refine ⟨.assign x name now now', ?_⟩
    rw [← p.rename_stamp t name]
    exact alike.add p.context _

/-- **A visit does alike work**, as soon as the names agree. -/
theorem Work.alike (work : Work p defs x d b names d') (work' : Work p defs x e b' names' e')
    (alike : d.Alike ρ e) (named : d.Named known) (fixed : ρ x.task = x.task) (empty : ρ "" = "") :
    names.length = names'.length ∧
      ((∀ q ∈ names.zip names', ρ q.1 = q.2) → b.Alike ρ b' ∧ d'.Alike ρ e') := by
  have same : e.tasks.find? ⟨p.item.ns, x.task⟩ = d.tasks.find? ⟨p.item.ns, x.task⟩ :=
    alike.find? named fixed
  have kept : ∀ {t : Task}, d.tasks.find? ⟨p.item.ns, x.task⟩ = some t → t.rename ρ = t := by
    intro t found
    have name : t.name = x.task := congrArg TaskKey.name (named.tasks _ t found).1
    exact Task.rename_of_fixed (by rw [name, fixed])
  cases work with
  | finished terminal =>
    obtain ⟨rfl, rfl, rfl⟩ := work'.of_terminal terminal
    exact ⟨rfl, fun _ => ⟨.refl fixed, alike⟩⟩
  | @running t watched found live =>
    obtain ⟨rfl, ⟨-, rfl, rfl⟩ | ⟨ended, -⟩⟩ := work'.of_found watched (same.trans found)
    · have bound := alike.bind p.context t
      rw [kept found] at bound
      exact ⟨rfl, fun _ => ⟨.refl fixed, bound⟩⟩
    · rw [live] at ended
      cases ended
  | @completed t now watched found ended =>
    obtain ⟨rfl, ⟨live, -⟩ | ⟨-, ⟨now', rfl⟩, rfl⟩⟩ := work'.of_found watched (same.trans found)
    · rw [ended] at live
      cases live
    · refine ⟨rfl, fun _ => ⟨⟨rfl, fixed.symm, rfl, rfl, ?_⟩, alike.settle p.context (kept found)⟩⟩
      simp [ItemStatus.ended]
  | lost watched missing making =>
    exact making.alike (work'.of_missing watched (same.trans missing))
      (alike.vanish p.item.ns fixed) empty
  | bare live bare making => exact making.alike (work'.of_bare live bare) alike fixed

/-- **Visits do alike work**, if the names of the new tasks agree, one by one. -/
theorem Works.alike {xs bs bs' : List ItemStatus} (works : Works p defs xs d bs names d')
    (works' : Works p defs xs e bs' names' e') (alike : d.Alike ρ e) (named : d.Named known)
    (fixed : ∀ x ∈ xs, ρ x.task = x.task) (empty : ρ "" = "")
    (agree : ∀ q ∈ names.zip names', ρ q.1 = q.2) :
    Forall₂ (ItemStatus.Alike ρ) bs bs' ∧ d'.Alike ρ e' := by
  induction works generalizing e bs' names' known with
  | nil =>
    cases works'
    exact ⟨.nil, alike⟩
  | cons work works ih =>
    cases works' with
    | cons work' works' =>
      obtain ⟨length, next⟩ := work.alike work' alike named (fixed _ List.mem_cons_self) empty
      rw [List.zip_append length] at agree
      obtain ⟨entry, desk⟩ := next fun q hq => agree q (List.mem_append_left _ hq)
      obtain ⟨entries, desks⟩ := ih works' desk (work.named named)
        (fun x hx => fixed x (List.mem_cons_of_mem _ hx))
        fun q hq => agree q (List.mem_append_right _ hq)
      exact ⟨.cons entry entries, desks⟩

end DeployChecks
