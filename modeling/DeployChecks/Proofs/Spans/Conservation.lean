import DeployChecks.Proofs.Keyed
import DeployChecks.Proofs.Spans.Account
import Mathlib.Data.List.Perm.Subperm

/-!
# Proofs/Spans/Conservation — every span that was started is exported or open

Whatever is done with a registry, the records that its tracer has started since are those that it
has exported, each once, and those that are open under a key.  What carries this is that two keys
never lead to one record, so that what is done in the span of one key leaves the others alone.
Whatever is done in a span comes down to a change of its record, which is exported if it is over by
then (`touch_of_open`).  Main definitions: `Touch`, `Deed`, `Balanced`; main statement:
`spans_are_conserved`.
-/

namespace DeployChecks

open List (Forall₂)
open Trace (Attribute Context Span SpanEvent SpanStatus Tracer)

/-- **A change of one element**, up to the order. -/
theorem exists_perm_modify {α : Type} {l : List α} {i : Nat} {a : α} (b : α)
    (at_ : l[i]? = some a) :
    ∃ rest, l.Perm (a :: rest) ∧ (l.modify i fun _ => b).Perm (b :: rest) := by
  induction l generalizing i with
  | nil => cases at_
  | cons x l ih =>
    match i, at_ with
    | 0, at_ =>
      obtain rfl := Option.some.inj at_
      exact ⟨l, .refl _, .refl _⟩
    | i + 1, at_ =>
      obtain ⟨rest, old, new⟩ := ih (i := i) (by simpa using at_)
      exact ⟨x :: rest, (old.cons x).trans (.swap _ _ _), (new.cons x).trans (.swap _ _ _)⟩

theorem map_modify_of_eq {α β : Type} {g : α → β} {l : List α} {i : Nat} {a b : α}
    (at_ : l[i]? = some a) (same : g b = g a) : (l.modify i fun _ => b).map g = l.map g := by
  induction l generalizing i with
  | nil => cases at_
  | cons x l ih =>
    match i, at_ with
    | 0, at_ =>
      obtain rfl := Option.some.inj at_
      exact congrArg (· :: l.map g) same
    | i + 1, at_ => exact congrArg (g x :: ·) (ih (i := i) (by simpa using at_))

theorem modify_congr {α : Type} {f g : α → α} {l : List α} {i : Nat}
    (same : ∀ a, l[i]? = some a → f a = g a) : l.modify i f = l.modify i g := by
  induction l generalizing i with
  | nil => rw [List.modify_nil, List.modify_nil]
  | cons x l ih =>
    match i, same with
    | 0, same => exact congrArg (· :: l) (same x rfl)
    | i + 1, same => exact congrArg (x :: ·) (ih fun a at_ => same a (by simpa using at_))

/-! ## What is done in a span -/

namespace Trace

/-- **What is done in a span.** -/
inductive Touch where
  /-- It ends. -/
  | finish
  /-- Its status is set. -/
  | setStatus (status : SpanStatus)
  /-- Something happens. -/
  | addEvent (event : SpanEvent)

namespace Touch

/-- What becomes of the record. -/
def record (s : Span) : Touch → Span
  | finish => { s with ended := true }
  | setStatus status => s.setStatus status
  | addEvent event => s.addEvent event

variable {s : Span} (x : Touch)

@[simp] theorem context_record : (x.record s).context = s.context := by
  cases x with
  | finish => rfl
  | setStatus status =>
    rw [record, Span.setStatus]
    split <;> rfl
  | addEvent event =>
    rw [record, Span.addEvent]
    split <;> rfl

/-- A record that is over is not changed any more. -/
theorem record_of_ended (ended : s.ended = true) : x.record s = s := by
  cases x with
  | finish => exact congrArg (fun ended => { s with ended }) ended.symm
  | setStatus status => exact if_pos ended
  | addEvent event => exact if_pos (by rw [ended, Bool.true_or])

end Touch

namespace Tracer

/-- Something is done in the span of a context. -/
def touch (t : Tracer) (c : Context) : Touch → Tracer
  | .finish => t.finish c
  | .setStatus status => t.setStatus c status
  | .addEvent event => t.addEvent c event

variable {t u : Tracer} {c : Context} {s : Span} {i : Nat}

theorem openSpan?_eq_some :
    t.openSpan? c = some s ↔ ∃ i, c.handle = some i ∧ t.spans[i]? = some s ∧ s.ended = false := by
  simp only [openSpan?, Option.filter_eq_some_iff, Option.bind_eq_some_iff, Bool.not_eq_true']
  constructor
  · rintro ⟨⟨i, handle, at_⟩, running⟩
    exact ⟨i, handle, at_, running⟩
  · rintro ⟨i, handle, at_, running⟩
    exact ⟨⟨i, handle, at_⟩, running⟩

/-- Whether a span is open depends on its own record. -/
theorem openSpan?_congr (same : ∀ i, c.handle = some i → u.spans[i]? = t.spans[i]?) :
    u.openSpan? c = t.openSpan? c := by
  unfold openSpan?
  cases handle : c.handle with
  | none => rfl
  | some i => rw [Option.bind_some, Option.bind_some, same i handle]

theorem change_of_handle (handle : c.handle = some i) (f : Span → Span) :
    t.change c.handle f = { t with spans := t.spans.modify i f } := by
  rw [handle]
  rfl

/-- **In a span that is not open nothing can be done.** -/
theorem touch_of_not_open (closed : t.openSpan? c = none) (x : Touch) : t.touch c x = t := by
  have unchanged : ∀ f : Span → Span, (∀ s, s.ended = true → f s = s) → t.change c.handle f = t := by
    intro f still
    cases handle : c.handle with
    | none => rfl
    | some i =>
      refine congrArg (fun spans => { t with spans }) (Eq.trans ?_ (List.modify_id i t.spans))
      refine modify_congr fun s at_ => still s ?_
      by_contra running
      have opened := openSpan?_eq_some.2 ⟨i, handle, at_, by simpa using running⟩
      rw [closed] at opened
      cases opened
  cases x with
  | finish => rw [touch, finish, closed]
  | setStatus status => exact unchanged _ fun s => (Touch.setStatus status).record_of_ended
  | addEvent event => exact unchanged _ fun s => (Touch.addEvent event).record_of_ended

/-- **In an open span** the record is changed, and exported if it is over by then. -/
theorem touch_of_open (handle : c.handle = some i) (at_ : t.spans[i]? = some s)
    (running : s.ended = false) (x : Touch) :
    t.touch c x = { t with
      spans := t.spans.modify i fun _ => x.record s
      exported := t.exported ++ [x.record s].filter (·.ended) } := by
  have changed : ∀ f : Span → Span, (f s).ended = false → t.change c.handle f = { t with
      spans := t.spans.modify i fun _ => f s
      exported := t.exported ++ [f s].filter (·.ended) } := by
    intro f live
    rw [List.filter_singleton, live, cond_false, List.append_nil, change_of_handle handle]
    refine congrArg (fun spans => { t with spans }) (modify_congr fun s' at' => ?_)
    rw [Option.some.inj (at'.symm.trans at_)]
  cases x with
  | finish =>
    rw [touch, finish, openSpan?_eq_some.2 ⟨i, handle, at_, running⟩]
    dsimp only
    rw [change_of_handle handle]
    rfl
  | setStatus status =>
    refine changed _ ?_
    unfold Span.setStatus
    split <;> exact running
  | addEvent event =>
    refine changed _ ?_
    unfold Span.addEvent
    split <;> exact running

/-- In the span of one context, what is done in that of another leaves no trace. -/
theorem openSpan?_touch_of_ne {c' : Context} (apart : ∀ i, c.handle = some i → c'.handle ≠ some i)
    (x : Touch) : (t.touch c x).openSpan? c' = t.openSpan? c' := by
  cases opened : t.openSpan? c with
  | none => rw [touch_of_not_open opened]
  | some s =>
    obtain ⟨i, handle, at_, live⟩ := openSpan?_eq_some.1 opened
    rw [touch_of_open handle at_ live]
    refine openSpan?_congr fun j handle' => List.getElem?_modify_ne _ _ ?_
    rintro rfl
    exact apart i handle handle'

/-- A span stays open until it is over. -/
theorem openSpan?_touch_self (opened : t.openSpan? c = some s) (x : Touch) :
    (t.touch c x).openSpan? c = if (x.record s).ended then none else some (x.record s) := by
  obtain ⟨i, handle, at_, live⟩ := openSpan?_eq_some.1 opened
  rw [touch_of_open handle at_ live]
  simp only [openSpan?, handle, Option.bind_some, List.getElem?_modify_eq, at_,
    Option.map_eq_map, Option.map_some]
  cases ended : (x.record s).ended <;> simp [ended]

/-- **A span is started** as a child: it is in the trace of the parent, or in a new one, and the
context inside it has the state and the baggage of the parent.  If it is sampled there is a record
of it, with the named values that there is room for. -/
structure Starts (t : Tracer) (parent : Context) (attributes : List Attribute) (c : Context)
    (u : Tracer) : Prop where
  /-- The trace. -/
  trace : c.spanContext.traceId
    = (parent.span.map (·.context.traceId)).getD (t.ids.trace t.started)
  /-- The identity is a new one. -/
  span : c.spanContext.spanId = t.ids.span t.started
  /-- The sampler decides on the trace. -/
  sampled : c.spanContext.sampled
    = t.sampler.samples (parent.span.map (·.context)) c.spanContext.traceId
  /-- The span is one of this program. -/
  remote : c.spanContext.remote = false
  /-- The vendor entries. -/
  state : c.spanContext.state = parent.spanContext.state
  /-- The baggage. -/
  baggage : c.baggage = parent.baggage
  /-- The place of the record. -/
  handle : c.handle = if c.spanContext.sampled then some t.spans.length else none
  /-- Nothing else is started, and nothing exported. -/
  tracer : u = { t with
    started := t.started + 1
    spans := t.spans ++ if c.spanContext.sampled then
      [⟨SpanRegistry.spanName, .consumer, c.spanContext, parent.spanContext.spanId,
        attributes.take maxKept, [], .unset, false⟩] else [] }

theorem starts_start (active : t.isShutDown = false) (parent : Context)
    (attributes : List Attribute) :
    t.Starts parent attributes (t.start SpanRegistry.spanName .consumer parent attributes).1
      (t.start SpanRegistry.spanName .consumer parent attributes).2 := by
  have trace : ((parent.span.map (·.context)).map (·.traceId)).getD (t.ids.trace t.started)
      = (parent.span.map (·.context.traceId)).getD (t.ids.trace t.started) := by
    rw [Option.map_map]
    rfl
  unfold start
  rw [if_neg (by rw [active]; exact Bool.false_ne_true)]
  dsimp only
  split
  · next sampled =>
    refine ⟨trace, rfl, rfl, rfl, rfl, rfl, (if_pos sampled).symm, ?_⟩
    exact congrArg (fun more => { t with started := t.started + 1, spans := t.spans ++ more })
      (if_pos sampled).symm
  · next unsampled =>
    refine ⟨trace, rfl, rfl, rfl, rfl, rfl, (if_neg unsampled).symm, ?_⟩
    have none_more : t.spans = t.spans ++ [] := (List.append_nil _).symm
    exact congrArg (fun spans => { t with started := t.started + 1, spans })
      (none_more.trans (congrArg (t.spans ++ ·) (if_neg unsampled).symm))

/-- **The records that a new span adds** to those of a tracer: its own, unless it is not recorded. -/
inductive Adds (t : Tracer) (c : Context) : List Span → Prop
  /-- The span is not recorded. -/
  | unrecorded (handle : c.handle = none) : Adds t c []
  /-- The record comes behind all others, and has the next identity. -/
  | recorded {s : Span} (handle : c.handle = some t.spans.length) (live : s.ended = false)
      (identity : s.context.spanId = t.ids.span t.started) : Adds t c [s]

theorem Starts.exists_adds {parent : Context} {attributes : List Attribute}
    (starts : t.Starts parent attributes c u) :
    ∃ more, u = { t with started := t.started + 1, spans := t.spans ++ more } ∧ t.Adds c more := by
  refine ⟨_, starts.tracer, ?_⟩
  have handle := starts.handle
  split
  · next sampled => exact .recorded (handle.trans (if_pos sampled)) rfl starts.span
  · next unsampled => exact .unrecorded (handle.trans (if_neg unsampled))

variable {more : List Span}

theorem Adds.place (adds : t.Adds c more) (handle : c.handle = some i) :
    i = t.spans.length ∧ more.length = 1 := by
  cases adds with
  | unrecorded bare =>
    rw [bare] at handle
    cases handle
  | recorded next_ => exact ⟨Option.some.inj (handle.symm.trans next_), rfl⟩

theorem Adds.identities (adds : t.Adds c more) :
    (more.map (·.context.spanId)).Sublist [t.ids.span t.started] := by
  cases adds with
  | unrecorded => exact List.nil_sublist _
  | recorded _ _ identity =>
    rw [List.map_singleton, identity]

end Tracer

end Trace

namespace SpanRegistry

open Trace (Touch)

/-! ## Deeds -/

/-- Something is done in the span of a key, if there is one. -/
def touch (r : SpanRegistry) (k : SpanKey) (x : Touch) : SpanRegistry :=
  match r.lookup k with
  | some c => ⟨r.tracer.touch c x, r.bound⟩
  | none => r

/-- **What is done with a registry.** -/
inductive Deed where
  /-- A span is opened. -/
  | openSpan (k : SpanKey) (parent : Context) (attributes : List Attribute)
  /-- A span is asked for, and opened if there is none. -/
  | getOrOpen (k : SpanKey) (parent : Context) (attributes : List Attribute)
  /-- A span is looked for. -/
  | lookup (k : SpanKey)
  /-- A span is given up. -/
  | unbind (k : SpanKey)
  /-- Something is done in a span. -/
  | touch (k : SpanKey) (x : Touch)

namespace Deed

/-- The key of the span. -/
def key : Deed → SpanKey
  | openSpan k _ _ | getOrOpen k _ _ | lookup k | unbind k | touch k _ => k

/-- **What a deed does**, and the span that is answered. -/
def act : Deed → Act SpanRegistry (Option Context)
  | openSpan k parent attributes => fun r =>
    ((some (r.bind k parent attributes).1, r.openNotes k), (r.bind k parent attributes).2)
  | getOrOpen k parent attributes => fun r =>
    ((some (r.bind k parent attributes).1, r.bindNotes k), (r.bind k parent attributes).2)
  | lookup k => fun r => ((r.lookup k, []), r)
  | unbind k => fun r => ((none, r.unbindNotes k), r.unbind k)
  | touch k x => fun r => ((none, []), r.touch k x)

/-- **A deed opens a span**, in one way or the other. -/
inductive Opens (k : SpanKey) (parent : Context) (attributes : List Attribute) : Deed → Prop
  /-- As a new one. -/
  | openSpan : Opens k parent attributes (.openSpan k parent attributes)
  /-- If there is none. -/
  | getOrOpen : Opens k parent attributes (.getOrOpen k parent attributes)

/-- **The same deed**, but for the way of opening. -/
inductive Alike : Deed → Deed → Prop
  /-- The same. -/
  | refl (d : Deed) : Alike d d
  /-- Two ways of opening. -/
  | opens {k : SpanKey} {parent : Context} {attributes : List Attribute} {d d' : Deed}
      (opens : d.Opens k parent attributes) (opens' : d'.Opens k parent attributes) : Alike d d'

end Deed

/-- The registry after a deed. -/
def step (r : SpanRegistry) (d : Deed) : SpanRegistry := (d.act r).2

/-- **The registry after deeds.** -/
def run (r : SpanRegistry) (deeds : List Deed) : SpanRegistry := deeds.foldl step r

/-- **The answers to deeds.** -/
def answers (r : SpanRegistry) : List Deed → List (Option Context)
  | [] => []
  | d :: deeds => (d.act r).1.1 :: (r.step d).answers deeds

/-- The records of the bound spans that are not over. -/
def running (r : SpanRegistry) : List Span := r.bound.values.filterMap r.tracer.openSpan?

variable {first : Tracer} {r : SpanRegistry} {k k' : SpanKey} {parent c : Context}
  {attributes : List Attribute} {d d' : Deed} {deeds deeds' : List Deed}

/-! ## One deed -/

theorem step_of_opens (opens : d.Opens k parent attributes) :
    (d.act r).1.1 = some (r.bind k parent attributes).1 ∧
      r.step d = (r.bind k parent attributes).2 := by
  cases opens <;> exact ⟨rfl, rfl⟩

theorem bind_of_lookup (found : r.lookup k = some c) : r.bind k parent attributes = (c, r) := by
  rw [bind, found]

theorem bind_of_free (free : r.lookup k = none) :
    r.bind k parent attributes = ((r.tracer.start spanName .consumer parent attributes).1,
      ⟨(r.tracer.start spanName .consumer parent attributes).2,
        r.bound.insert k (r.tracer.start spanName .consumer parent attributes).1⟩) := by
  rw [bind, free]

theorem touch_of_lookup (found : r.lookup k = some c) (x : Touch) :
    r.touch k x = ⟨r.tracer.touch c x, r.bound⟩ := by
  rw [touch, found]

theorem unbind_of_free (free : r.lookup k = none) : r.unbind k = r := by
  rw [unbind, free]

/-- Giving a span up ends it and removes the binding. -/
theorem unbind_of_lookup (found : r.lookup k = some c) :
    r.unbind k = ⟨(r.touch k .finish).tracer, r.bound.erase k⟩ := by
  rw [unbind, found, touch_of_lookup found]
  rfl

theorem bound_touch (x : Touch) : (r.touch k x).bound = r.bound := by
  unfold touch
  split <;> rfl

theorem lookup_unbind : (r.unbind k).lookup k' = if k' = k then none else r.lookup k' := by
  cases found : r.lookup k with
  | none =>
    rw [unbind_of_free found]
    by_cases same : k' = k
    · rw [if_pos same, same, found]
    · rw [if_neg same]
  | some c =>
    rw [unbind_of_lookup found]
    exact Keyed.find?_erase _ _ _

/-- **A deed leaves the bindings of other keys.** -/
theorem lookup_step_of_ne (other : k ≠ d.key) : (r.step d).lookup k = r.lookup k := by
  have bound : ∀ parent attributes,
      (r.bind d.key parent attributes).2.lookup k = r.lookup k := fun parent attributes => by
    cases found : r.lookup d.key with
    | some c => rw [bind_of_lookup found]
    | none =>
      rw [bind_of_free found]
      exact (Keyed.find?_insert _ _ _ _).trans (if_neg other)
  cases d with
  | openSpan k' parent attributes | getOrOpen k' parent attributes => exact bound parent attributes
  | lookup k' => rfl
  | unbind k' => exact lookup_unbind.trans (if_neg other)
  | touch k' x => exact congrArg (·.find? k) (bound_touch x)

/-- **Either way of opening does the same.** -/
theorem act_alike (alike : d.Alike d') :
    (d.act r).1.1 = (d'.act r).1.1 ∧ r.step d = r.step d' := by
  cases alike with
  | refl => exact ⟨rfl, rfl⟩
  | opens opens opens' =>
    obtain ⟨answer, after⟩ := r.step_of_opens opens
    obtain ⟨answer', after'⟩ := r.step_of_opens opens'
    exact ⟨answer.trans answer'.symm, after.trans after'.symm⟩

theorem run_alike (alike : Forall₂ Deed.Alike deeds deeds') :
    r.answers deeds = r.answers deeds' ∧ r.run deeds = r.run deeds' := by
  induction alike generalizing r with
  | nil => exact ⟨rfl, rfl⟩
  | cons head _ ih =>
    obtain ⟨answer, after⟩ := r.act_alike head
    obtain ⟨answers, final⟩ := ih (r := r.step _)
    rw [SpanRegistry.answers, SpanRegistry.answers, answer, answers, after]
    refine ⟨rfl, final.trans ?_⟩
    rw [after]
    rfl

/-! ## The balance -/

/-- **The records are balanced** since a first tracer: those that were started are those that were
exported and those that are open under a key. -/
structure Balanced (first : Tracer) (r : SpanRegistry) : Prop where
  /-- The tracer is active. -/
  active : r.tracer.isShutDown = false
  /-- Identities come from the same place. -/
  ids : r.tracer.ids = first.ids
  /-- No start is taken back. -/
  started : first.started ≤ r.tracer.started
  /-- No record is taken back. -/
  spans : first.spans.length ≤ r.tracer.spans.length
  /-- No export is taken back. -/
  exported : first.exported <+: r.tracer.exported
  /-- A bound key leads to a record that was started since, if to any. -/
  places : ∀ k c i, r.lookup k = some c → c.handle = some i →
    first.spans.length ≤ i ∧ i < r.tracer.spans.length
  /-- No two keys lead to one record. -/
  apart : ∀ k k' c c' i, r.lookup k = some c → r.lookup k' = some c' → c.handle = some i →
    c'.handle = some i → k = k'
  /-- Each record has an identity of its own draw. -/
  identities : ((r.tracer.spans.drop first.spans.length).map (·.context.spanId)).Sublist
    ((List.range' first.started (r.tracer.started - first.started)).map first.ids.span)
  /-- The balance. -/
  balance : (r.tracer.spans.drop first.spans.length).Perm
    (r.tracer.exported.drop first.exported.length ++ r.running)

theorem balanced_empty (active : first.isShutDown = false) : Balanced first (empty first) where
  active := active
  ids := rfl
  started := Nat.le_refl _
  spans := Nat.le_refl _
  exported := List.prefix_refl _
  places := nofun
  apart := nofun
  identities := by simp [empty]
  balance := by
    change (first.spans.drop _).Perm (first.exported.drop _ ++ [])
    rw [List.drop_length, List.drop_length]
    exact .refl _

namespace Balanced

/-- What is done in the span of one key leaves those of the others. -/
theorem openSpan?_touch_of_ne (h : Balanced first r) {c' : Context} (found : r.lookup k = some c)
    (found' : r.lookup k' = some c') (other : k' ≠ k) (x : Touch) :
    (r.tracer.touch c x).openSpan? c' = r.tracer.openSpan? c' :=
  Tracer.openSpan?_touch_of_ne
    (fun _ handle handle' => other (h.apart _ _ _ _ _ found' found handle' handle)) x

/-- The open records, one of which is changed. -/
theorem exists_running_touch (h : Balanced first r) {s : Span} (found : r.lookup k = some c)
    (opened : r.tracer.openSpan? c = some s) (x : Touch) :
    ∃ before after, r.running = before ++ s :: after ∧ (r.touch k x).running
      = before ++ ((if (x.record s).ended then [] else [x.record s]) ++ after) := by
  obtain ⟨before, after, values, left⟩ := Keyed.exists_values_erase found
  have others : ∀ c' ∈ before ++ after,
      (r.tracer.touch c x).openSpan? c' = r.tracer.openSpan? c' := fun c' inside => by
    obtain ⟨k', other, found'⟩ := Keyed.exists_ne_of_mem_erase (left ▸ inside)
    exact h.openSpan?_touch_of_ne found found' other x
  rw [List.forall_mem_append] at others
  refine ⟨before.filterMap r.tracer.openSpan?, after.filterMap r.tracer.openSpan?, ?_, ?_⟩
  · rw [running, values, List.filterMap_append, List.filterMap_cons_some opened]
  · rw [touch_of_lookup found, running]
    dsimp only
    rw [values, List.filterMap_append, List.filterMap_cons, Tracer.openSpan?_touch_self opened x,
      List.filterMap_congr others.1, List.filterMap_congr others.2]
    cases (x.record s).ended <;> rfl

/-- **Whatever is done in a bound span** keeps the balance. -/
theorem touch (h : Balanced first r) (k : SpanKey) (x : Touch) : Balanced first (r.touch k x) := by
  cases found : r.lookup k with
  | none =>
    rw [SpanRegistry.touch, found]
    exact h
  | some c =>
  cases opened : r.tracer.openSpan? c with
  | none =>
    rw [touch_of_lookup found, Tracer.touch_of_not_open opened]
    exact h
  | some s =>
  obtain ⟨i, handle, at_, live⟩ := Tracer.openSpan?_eq_some.1 opened
  obtain ⟨late, -⟩ := h.places k c i found handle
  have record : (r.tracer.spans.drop first.spans.length)[i - first.spans.length]? = some s :=
    (getElem?_drop_sub late).trans at_
  obtain ⟨before, after, was, now⟩ := h.exists_running_touch found opened x
  obtain ⟨rest, old, new⟩ := exists_perm_modify (x.record s) record
  -- the records but for this one are the exported ones and those open under other keys
  have kept : rest.Perm (r.tracer.exported.drop first.exported.length ++ (before ++ after)) := by
    have whole := old.symm.trans h.balance
    rw [was, ← List.append_assoc] at whole
    rw [← List.append_assoc]
    exact (whole.trans List.perm_middle).cons_inv
  rw [touch_of_lookup found, Tracer.touch_of_open handle at_ live] at now ⊢
  refine
    { active := h.active
      ids := h.ids
      started := h.started
      spans := by rw [List.length_modify]; exact h.spans
      exported := h.exported.trans (List.prefix_append _ _)
      places := fun k c i found handle => by
        rw [List.length_modify]
        exact h.places k c i found handle
      apart := h.apart
      identities := ?_
      balance := ?_ }
  · dsimp only
    rw [List.drop_modify_of_ge _ _ _ _ late, map_modify_of_eq record (by rw [x.context_record])]
    exact h.identities
  · rw [now]
    dsimp only
    rw [List.drop_modify_of_ge _ _ _ _ late, List.drop_append_of_le_length h.exported.length_le,
      List.filter_singleton]
    refine new.trans ((kept.cons _).trans ?_)
    cases (x.record s).ended with
    | true => simpa using List.perm_middle.symm
    | false =>
      rw [cond_false, List.append_nil, if_neg Bool.false_ne_true, List.singleton_append,
        ← List.append_assoc, ← List.append_assoc]
      exact List.perm_middle.symm

/-- A binding whose span is over can be removed. -/
theorem erase (h : Balanced first r) (found : r.lookup k = some c)
    (closed : r.tracer.openSpan? c = none) : Balanced first ⟨r.tracer, r.bound.erase k⟩ := by
  have bound : ∀ {k' c'}, (⟨r.tracer, r.bound.erase k⟩ : SpanRegistry).lookup k' = some c' →
      r.lookup k' = some c' := fun found' => by
    rw [lookup, Keyed.find?_erase] at found'
    split at found'
    · cases found'
    · exact found'
  obtain ⟨before, after, values, left⟩ := Keyed.exists_values_erase found
  have same : (⟨r.tracer, r.bound.erase k⟩ : SpanRegistry).running = r.running := by
    rw [running, running, left, values, List.filterMap_append, List.filterMap_append,
      List.filterMap_cons_none closed]
  exact { h with
    places := fun k' c' i found' => h.places k' c' i (bound found')
    apart := fun k' k'' c' c'' i found' found'' =>
      h.apart k' k'' c' c'' i (bound found') (bound found'')
    balance := by rw [same]; exact h.balance }

/-- **Giving a span up** keeps the balance. -/
theorem unbind (h : Balanced first r) (k : SpanKey) : Balanced first (r.unbind k) := by
  cases found : r.lookup k with
  | none => rwa [unbind_of_free found]
  | some c =>
    have touched := h.touch k .finish
    have found' : (r.touch k .finish).lookup k = some c := by
      rw [SpanRegistry.lookup, bound_touch]
      exact found
    have closed : (r.touch k .finish).tracer.openSpan? c = none := by
      rw [touch_of_lookup found]
      cases opened : r.tracer.openSpan? c with
      | none => rwa [Tracer.touch_of_not_open opened]
      | some s => exact Tracer.openSpan?_touch_self opened .finish
    rw [unbind_of_lookup found, ← bound_touch .finish]
    exact touched.erase found' closed

/-- A new span is open under its key. -/
theorem running_insert (h : Balanced first r) (free : r.lookup k = none) {u : Tracer}
    {more : List Span} (spans : u.spans = r.tracer.spans ++ more) (adds : r.tracer.Adds c more) :
    (⟨u, r.bound.insert k c⟩ : SpanRegistry).running = r.running ++ more := by
  have values : (r.bound.insert k c).values = r.bound.values ++ [c] := by
    rw [Keyed.values, Keyed.toList_insert free, List.map_append]
    rfl
  have old : ∀ c' ∈ r.bound.values, u.openSpan? c' = r.tracer.openSpan? c' := by
    intro c' inside
    obtain ⟨k', found⟩ := Keyed.mem_values.1 inside
    refine Tracer.openSpan?_congr fun i handle => ?_
    rw [spans]
    exact List.getElem?_append_left (h.places k' c' i found handle).2
  have new : [c].filterMap u.openSpan? = more := by
    cases adds with
    | unrecorded handle => exact List.filterMap_cons_none (by rw [Tracer.openSpan?, handle]; rfl)
    | recorded handle live =>
      refine List.filterMap_cons_some (Tracer.openSpan?_eq_some.2 ⟨_, handle, ?_, live⟩)
      rw [spans]
      exact List.getElem?_concat_length
  rw [SpanRegistry.running, values, List.filterMap_append, List.filterMap_congr old, new]
  rfl

/-- The new record has the identity that was drawn for it. -/
theorem identities_insert (h : Balanced first r) {more : List Span}
    (adds : r.tracer.Adds c more) :
    (((r.tracer.spans ++ more).drop first.spans.length).map (·.context.spanId)).Sublist
      ((List.range' first.started (r.tracer.started + 1 - first.started)).map first.ids.span) := by
  have one_more : r.tracer.started + 1 - first.started
      = r.tracer.started - first.started + 1 := Nat.succ_sub h.started
  have last : first.started + (r.tracer.started - first.started) = r.tracer.started :=
    Nat.add_sub_of_le h.started
  rw [List.drop_append_of_le_length h.spans, List.map_append, one_more, List.range'_1_concat,
    List.map_append, last, ← h.ids]
  exact (h.ids ▸ h.identities).append adds.identities

/-- **A new span under a free key** keeps the balance. -/
theorem insert (h : Balanced first r) (free : r.lookup k = none) {u : Tracer}
    (starts : r.tracer.Starts parent attributes c u) :
    Balanced first ⟨u, r.bound.insert k c⟩ := by
  obtain ⟨more, rfl, adds⟩ := starts.exists_adds
  have bound : ∀ {k' c'}, (r.bound.insert k c).find? k' = some c' →
      (k' = k ∧ c' = c) ∨ r.lookup k' = some c' := fun {k' c'} found => by
    rw [Keyed.find?_insert] at found
    split at found
    · next same => exact .inl ⟨same, (Option.some.inj found).symm⟩
    · exact .inr found
  have running := h.running_insert free (u := { r.tracer with
    started := r.tracer.started + 1, spans := r.tracer.spans ++ more }) rfl adds
  refine
    { active := h.active
      ids := h.ids
      started := Nat.le_succ_of_le h.started
      spans := ?_
      exported := h.exported
      places := ?_
      apart := ?_
      identities := h.identities_insert adds
      balance := ?_ }
  · dsimp only
    rw [List.length_append]
    exact Nat.le_add_right_of_le h.spans
  · intro k' c' i found handle
    dsimp only
    rw [List.length_append]
    obtain ⟨-, rfl⟩ | found := bound found
    · obtain ⟨rfl, one⟩ := adds.place handle
      exact ⟨h.spans, by omega⟩
    · obtain ⟨late, early⟩ := h.places k' c' i found handle
      exact ⟨late, by omega⟩
  · intro k₁ k₂ c₁ c₂ i found₁ found₂ handle₁ handle₂
    -- an old record has its place before that of the new one
    have early : ∀ k' c', r.lookup k' = some c' → c'.handle = some i → c.handle ≠ some i :=
      fun k' c' found handle' handle => absurd (h.places _ _ i found handle').2
        ((adds.place handle).1 ▸ Nat.lt_irrefl _)
    obtain ⟨rfl, rfl⟩ | old₁ := bound found₁ <;> obtain ⟨rfl, rfl⟩ | old₂ := bound found₂
    · rfl
    · exact absurd handle₁ (early _ _ old₂ handle₂)
    · exact absurd handle₂ (early _ _ old₁ handle₁)
    · exact h.apart _ _ _ _ i old₁ old₂ handle₁ handle₂
  · rw [running]
    dsimp only
    rw [List.drop_append_of_le_length h.spans, ← List.append_assoc]
    exact h.balance.append_right more

/-- **Opening a span** keeps the balance. -/
theorem bind (h : Balanced first r) (k : SpanKey) (parent : Context)
    (attributes : List Attribute) : Balanced first (r.bind k parent attributes).2 := by
  cases found : r.lookup k with
  | some c => rwa [bind_of_lookup found]
  | none =>
    rw [bind_of_free found]
    exact h.insert found (Tracer.starts_start h.active parent attributes)

theorem step (h : Balanced first r) (d : Deed) : Balanced first (r.step d) := by
  cases d with
  | openSpan k parent attributes | getOrOpen k parent attributes => exact h.bind k parent attributes
  | lookup k => exact h
  | unbind k => exact h.unbind k
  | touch k x => exact h.touch k x

/-- **Whatever is done** keeps the balance. -/
theorem run (h : Balanced first r) (deeds : List Deed) : Balanced first (r.run deeds) := by
  induction deeds generalizing r with
  | nil => exact h
  | cons d deeds ih => exact ih (h.step d)

/-- **A deed leaves the spans of other keys** open or over, as they are. -/
theorem openSpan?_step_of_ne (h : Balanced first r) (found : r.lookup k = some c)
    (other : k ≠ d.key) : (r.step d).tracer.openSpan? c = r.tracer.openSpan? c := by
  have bound : ∀ parent attributes,
      (r.bind d.key parent attributes).2.tracer.openSpan? c = r.tracer.openSpan? c := by
    intro parent attributes
    cases free : r.lookup d.key with
    | some c' => rw [bind_of_lookup free]
    | none =>
      obtain ⟨more, after, -⟩ := (Tracer.starts_start h.active parent attributes).exists_adds
      rw [bind_of_free free]
      refine Tracer.openSpan?_congr fun i handle => ?_
      rw [after]
      exact List.getElem?_append_left (h.places k c i found handle).2
  have touched : ∀ x, (r.touch d.key x).tracer.openSpan? c = r.tracer.openSpan? c := by
    intro x
    cases here : r.lookup d.key with
    | none => rw [SpanRegistry.touch, here]
    | some c' =>
      rw [touch_of_lookup here]
      exact h.openSpan?_touch_of_ne here found other x
  cases d with
  | openSpan k' parent attributes | getOrOpen k' parent attributes => exact bound parent attributes
  | lookup k' => rfl
  | unbind k' =>
    refine Eq.trans ?_ (touched .finish)
    change (r.unbind k').tracer.openSpan? c = (r.touch k' .finish).tracer.openSpan? c
    cases here : r.lookup k' with
    | none => rw [unbind_of_free here, SpanRegistry.touch, here]
    | some c' => rw [unbind_of_lookup here]
  | touch k' x => exact touched x

/-- **No span is exported twice**, and none that is exported is open, if no identity is drawn
twice. -/
theorem nodup_identities (h : Balanced first r) (distinct : Function.Injective first.ids.span) :
    ((r.tracer.exported.drop first.exported.length ++ r.running).map
      (·.context.spanId)).Nodup :=
  (h.balance.map _).nodup_iff.1 ((List.Nodup.map distinct List.nodup_range').sublist h.identities)

end Balanced

/-! ## A registry and its spans -/

/-- **A registry keeps its spans**: one at most under a key, and none is lost. -/
structure KeepsSpans (first : Tracer) (deeds : List Deed) (r : SpanRegistry) : Prop where
  /-- Where nothing is bound, opening starts one span in the parent context, and binds it. -/
  starts : ∀ k parent attributes d, d.Opens k parent attributes → r.lookup k = none → ∃ c,
    (d.act r).1.1 = some c ∧ r.tracer.Starts parent attributes c (r.step d).tracer ∧
      (r.step d).lookup k = some c
  /-- Where a span is bound, opening gives it, whatever became of it, and changes nothing. -/
  reuses : ∀ k parent attributes d c, d.Opens k parent attributes → r.lookup k = some c →
    (d.act r).1.1 = some c ∧ r.step d = r
  /-- Looking changes nothing. -/
  looks : ∀ k, ((Deed.lookup k).act r).1.1 = r.lookup k ∧ r.step (.lookup k) = r
  /-- Giving up removes the binding, if there is one. -/
  unbinds : ∀ k, (r.step (.unbind k)).lookup k = none ∧
    (r.lookup k = none → r.step (.unbind k) = r)
  /-- What is done in a span leaves it bound. -/
  touches : ∀ k x, (r.step (.touch k x)).bound = r.bound
  /-- No deed changes what another key is bound to, or whether that is over. -/
  elsewhere : ∀ d k, k ≠ d.key → (r.step d).lookup k = r.lookup k ∧
    ∀ c, r.lookup k = some c → (r.step d).tracer.openSpan? c = r.tracer.openSpan? c
  /-- Another way of opening has the same answers and leaves the same. -/
  interchangeable : ∀ deeds', Forall₂ Deed.Alike deeds deeds' →
    (empty first).answers deeds = (empty first).answers deeds' ∧ r = (empty first).run deeds'
  /-- The records that were started are those that were exported and those that are open. -/
  balance : (r.tracer.spans.drop first.spans.length).Perm
    (r.tracer.exported.drop first.exported.length ++ r.running)
  /-- So there are as many. -/
  count : r.tracer.spans.length - first.spans.length
    = (r.tracer.exported.length - first.exported.length) + r.running.length
  /-- None is exported twice, if no identity is drawn twice. -/
  once : Function.Injective first.ids.span →
    ((r.tracer.exported.drop first.exported.length ++ r.running).map
      (·.context.spanId)).Nodup

/-- **Spans are conserved**, whatever is done with a registry of an active tracer. -/
theorem spans_are_conserved (tracer : Tracer) (active : tracer.isShutDown = false)
    (deeds : List Deed) : KeepsSpans tracer deeds ((empty tracer).run deeds) := by
  have balanced := (balanced_empty active).run deeds
  have interchangeable : ∀ deeds', Forall₂ Deed.Alike deeds deeds' → _ := fun deeds' alike =>
    (empty tracer).run_alike alike
  generalize (empty tracer).run deeds = r at balanced interchangeable ⊢
  refine
    { starts := fun k parent attributes d opens free => ?_
      reuses := fun k parent attributes d c opens found => ?_
      looks := fun k => ⟨rfl, rfl⟩
      unbinds := fun k => ⟨lookup_unbind.trans (if_pos rfl), unbind_of_free⟩
      touches := fun k x => bound_touch x
      elsewhere := fun d k other =>
        ⟨lookup_step_of_ne other, fun c found => balanced.openSpan?_step_of_ne found other⟩
      interchangeable
      balance := balanced.balance
      count := ?_
      once := balanced.nodup_identities }
  · obtain ⟨answer, after⟩ := r.step_of_opens opens
    rw [answer, after, bind_of_free free]
    exact ⟨_, rfl, Tracer.starts_start balanced.active parent attributes,
      (Keyed.find?_insert _ _ _ _).trans (if_pos rfl)⟩
  · obtain ⟨answer, after⟩ := r.step_of_opens opens
    rw [answer, after, bind_of_lookup found]
    exact ⟨rfl, rfl⟩
  · have lengths := balanced.balance.length_eq
    rwa [List.length_append, List.length_drop, List.length_drop] at lengths

/-- A span is ended, asked for again, and given up; a second one under its key stays open, and one
of another key is given up without having been ended. -/
theorem spans_are_conserved_after_reopening :
    let tracer := Tracer.new ⟨fun n => n + 1, fun n => n + 1⟩ .followParent
    let k := SpanKey.forTask "prod" "smoke"
    let k' := SpanKey.forTask "prod" "load"
    let deeds := [.openSpan k .empty [], .touch k .finish, .getOrOpen k .empty [], .unbind k,
      .openSpan k .empty [], .openSpan k' .empty [("a", "b")], .unbind k']
    let r := (empty tracer).run deeds
    (r.tracer.spans.length = 3 ∧ r.tracer.exported.length = 2 ∧ r.running.length = 1) ∧
      tracer.isShutDown = false ∧ KeepsSpans tracer deeds r := by
  intro tracer k k' deeds r
  exact ⟨by decide, rfl, spans_are_conserved tracer rfl deeds⟩

end SpanRegistry

end DeployChecks
