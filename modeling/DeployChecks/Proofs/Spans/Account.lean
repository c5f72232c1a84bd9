import DeployChecks.Proofs.Host.Work

/-!
# Proofs/Spans/Account — the spans of one key

Between a registry, which binds keys, and a tracer, which keeps records by their places, a span is
reached through the handle in its context.  Seen from one key all this comes down to an **account**:
the records that were started for the key, those that were exported, and whether one is bound.  Two
actions move it, binding and shutting, and neither touches the account of another key.  Main
definitions: `SpanRegistry.account`, `SpanRegistry.Sound`, `SpanRegistry.shut`; main statements:
`account_bind_self`, `account_bind_other`, `account_shut_self`, `account_shut_other`.
-/

namespace DeployChecks

open Trace (Context Sampler Span SpanEvent SpanStatus Tracer)

/-! ## Changing one element of a list -/

/-- A change of an element that a test rejects before and after is no change of what passes. -/
theorem filter_modify_of_neg {α : Type} {f : α → α} {p : α → Bool} {l : List α} {i : Nat} {a : α}
    (at_ : l[i]? = some a) (before : p a = false) (after : p (f a) = false) :
    (l.modify i f).filter p = l.filter p := by
  induction l generalizing i with
  | nil => cases at_
  | cons x l ih =>
    cases i with
    | zero =>
      obtain rfl := Option.some.inj at_
      simp [before, after]
    | succ i => simp [List.filter_cons, ih (by simpa using at_)]

/-- A change of the only element that passes a test. -/
theorem filter_modify_of_pos {α : Type} {f : α → α} {p : α → Bool} {l : List α} {i : Nat} {a b : α}
    (at_ : l[i]? = some a) (before : p a = true) (after : p (f a) = true)
    (only : l.filter p = [b]) : b = a ∧ (l.modify i f).filter p = [f a] := by
  induction l generalizing i with
  | nil => cases at_
  | cons x l ih =>
    cases i with
    | zero =>
      obtain rfl := Option.some.inj at_
      rw [List.filter_cons_of_pos before, List.cons.injEq] at only
      refine ⟨only.1.symm, ?_⟩
      rw [List.modify_zero_cons, List.filter_cons_of_pos after, only.2]
    | succ i =>
      have at_ : l[i]? = some a := by simpa using at_
      have passes : a ∈ l.filter p := List.mem_filter.2 ⟨List.mem_of_getElem? at_, before⟩
      cases head : p x with
      | true =>
        rw [List.filter_cons_of_pos head, List.cons.injEq] at only
        rw [only.2] at passes
        cases passes
      | false =>
        rw [List.filter_cons_of_neg (by simp [head])] at only
        rw [List.modify_succ_cons, List.filter_cons_of_neg (by simp [head])]
        exact ih at_ only

/-- What is left of a list has later places further in front. -/
theorem getElem?_drop_sub {α : Type} {l : List α} {n i : Nat} (late : n ≤ i) :
    (l.drop n)[i - n]? = l[i]? := by
  rw [List.getElem?_drop, Nat.add_sub_cancel' late]

/-! ## Closing a record -/

namespace Trace

/-- **Nothing happened in a span** so far. -/
structure Span.IsBlank (s : Span) : Prop where
  /-- There are no events. -/
  events : s.events = []
  /-- There is no status. -/
  status : s.status = .unset
  /-- It is not over. -/
  ended : s.ended = false

/-- **The record of a span that is over**, with what happened and how it ended. -/
def Span.over (s : Span) (events : List SpanEvent) (status : SpanStatus) : Span :=
  { s with events, status, ended := true }

/-- **There is room for it**: what happened and how it ended can be recorded as it is. -/
structure HasRoom (events : List SpanEvent) (status : SpanStatus) : Prop where
  /-- The events are not too many. -/
  few : events.length ≤ maxKept
  /-- Neither are the named values of any of them. -/
  small : ∀ e ∈ events, e.attributes.length ≤ maxKept
  /-- Something is known of the end. -/
  known : SpanStatus.unset.lt status = true

theorem Span.foldl_addEvent {s : Span} (ended : s.ended = false) {events : List SpanEvent}
    (room : s.events.length + events.length ≤ maxKept)
    (small : ∀ e ∈ events, e.attributes.length ≤ maxKept) :
    events.foldl Span.addEvent s = { s with events := s.events ++ events } := by
  induction events generalizing s with
  | nil => simp
  | cons e rest ih =>
    rw [List.forall_mem_cons] at small
    rw [List.length_cons] at room
    have added : s.addEvent e = { s with events := s.events ++ [e] } := by
      rw [Span.addEvent, ended, Bool.false_or, if_neg (by simp; omega),
        List.take_of_length_le small.1]
    have more := ih (s := { s with events := s.events ++ [e] }) ended
      (by rw [List.length_append, List.length_singleton]; omega) small.2
    rw [List.foldl_cons, added, more, List.append_assoc, List.singleton_append]

namespace Tracer

variable {t : Tracer} {c : Context} {i : Nat}

theorem foldl_addEvent (handle : c.handle = some i) (events : List SpanEvent) :
    events.foldl (fun t e => t.addEvent c e) t
      = { t with spans := t.spans.modify i fun s => events.foldl Span.addEvent s } := by
  induction events generalizing t with
  | nil => exact congrArg (fun spans => { t with spans }) (List.modify_id i t.spans).symm
  | cons e rest ih =>
    have added : t.addEvent c e = { t with spans := t.spans.modify i (·.addEvent e) } := by
      simp only [addEvent, change, handle]
    rw [List.foldl_cons, added, ih]
    simp [List.modify_modify_eq, Function.comp_def]

/-- A span that is over does not end again. -/
theorem finish_of_ended {s : Span} (handle : c.handle = some i) (at_ : t.spans[i]? = some s)
    (ended : s.ended = true) : t.finish c = t := by
  simp [finish, openSpan?, handle, at_, Option.filter, ended]

/-- **The whole end of a span**: what happened, how it ended, and the export. -/
theorem finish_blank {s : Span} {events : List SpanEvent} {status : SpanStatus}
    (handle : c.handle = some i) (at_ : t.spans[i]? = some s) (blank : s.IsBlank)
    (room : HasRoom events status) :
    ((events.foldl (fun t e => t.addEvent c e) t).setStatus c status).finish c
      = { t with
          spans := t.spans.modify i fun _ => s.over events status
          exported := t.exported ++ [s.over events status] } := by
  have added : events.foldl Span.addEvent s = { s with events } := by
    rw [Span.foldl_addEvent blank.ended (by simpa [blank.events] using room.few) room.small,
      blank.events, List.nil_append]
  have set : (events.foldl Span.addEvent s).setStatus status = { s with events, status } := by
    rw [added, Span.setStatus, blank.ended]
    simp [SpanStatus.merge, blank.status, room.known]
  rw [foldl_addEvent handle]
  simp [setStatus, change, finish, openSpan?, handle, List.modify_modify_eq, Function.comp_def,
    List.getElem?_modify, at_, set, blank.ended, Span.over, Option.filter]

end Tracer

end Trace

/-! ## What a registry does -/

/-- **The sampler records what starts in a context.** -/
def Trace.Sampler.Records (s : Sampler) (c : Context) : Prop :=
  ∀ trace, s.samples (c.span.map (·.context)) trace = true

/-- A sampler that follows the parent records what starts in a recorded span, or in none. -/
theorem Trace.Sampler.records_followParent (c : Context) :
    followParent.Records c ↔ ∀ a, c.span = some a → a.context.sampled = true := by
  unfold Records samples
  cases c.span <;> simp

/-- **The span of a task**, as it was started in a context. -/
structure Trace.Span.IsStarted (s : Span) (c : Context) (t : Task) : Prop where
  /-- It has the name of all of them. -/
  name : s.name = "create_task"
  /-- Somebody else does the work. -/
  kind : s.kind = .consumer
  /-- Its parent is the span of the context. -/
  parent : s.parent = c.spanContext.spanId
  /-- It is in the trace of the context, if there is one. -/
  trace : ∀ a, c.span = some a → s.context.traceId = a.context.traceId
  /-- It has the named values of the task. -/
  attributes : s.attributes = t.spanAttributes

/-- **The key that a span is about**, by its named values. -/
def Trace.Span.key? (s : Span) : Option SpanKey :=
  match s.attributes.lookup "keptn.deployment.task.name",
    s.attributes.lookup "keptn.deployment.task.namespace" with
  | some name, some ns => some (.forTask ns name)
  | _, _ => none

theorem Trace.Span.IsStarted.key?_eq {s : Span} {parent : Context} {t : Task}
    (started : s.IsStarted parent t) : s.key? = some t.spanKey := by
  rw [key?, started.attributes]
  simp [Task.spanAttributes, List.lookup_cons, Task.spanKey]

namespace SpanRegistry

/-- **Shut the span of a key**, if one is bound: close it, and give it up. -/
def shut (r : SpanRegistry) (k : SpanKey) (events : List SpanEvent) (status : SpanStatus) :
    SpanRegistry :=
  match r.lookup k with
  | some c => (r.close c events status).unbind k
  | none => r

variable {first r : SpanRegistry} {k k' : SpanKey} {events : List SpanEvent} {status : SpanStatus}
  {parent : Context} {t : Task}

theorem vanish_eq_shut (ns task : String) :
    r.vanish ns task = r.shut (.forTask ns task) [Pass.vanishing task] (.error "Vanished") := by
  unfold vanish shut
  cases found : r.lookup (.forTask ns task) with
  | none => exact unbind_of_not_isBound (by rw [isBound_eq, found]; decide)
  | some c => rfl

theorem lookup_bind (r : SpanRegistry) (k : SpanKey) (parent : Context)
    (attributes : List Trace.Attribute) :
    (r.bind k parent attributes).2.lookup k = some (r.bind k parent attributes).1 := by
  unfold bind
  split
  · assumption
  · rw [lookup, Keyed.find?_insert, if_pos rfl]

theorem settle_eq_shut (parent : Context) (t : Task) :
    r.settle parent t = (r.bind t.spanKey parent t.spanAttributes).2.shut t.spanKey
      (Pass.closing t).1 (Pass.closing t).2 := by
  rw [settle, shut, lookup_bind]

/-- **A registry is sound**, since a first one: the tracer works, and every bound key leads to a
record of its own, started since then, in which nothing happened so far. -/
structure Sound (first r : SpanRegistry) : Prop where
  /-- The tracer is active. -/
  active : r.tracer.isShutDown = false
  /-- It has the same sampler. -/
  sampler : r.tracer.sampler = first.tracer.sampler
  /-- No record is taken back. -/
  spans : first.tracer.spans.length ≤ r.tracer.spans.length
  /-- No export is taken back. -/
  exported : first.tracer.exported.length ≤ r.tracer.exported.length
  /-- Where a bound key leads. -/
  bound : ∀ k c, r.lookup k = some c → ∃ i s, c.handle = some i ∧
    first.tracer.spans.length ≤ i ∧ r.tracer.spans[i]? = some s ∧ s.key? = some k ∧ s.IsBlank

theorem sound_of_isEmpty (unbound : r.isEmpty = true) (active : r.tracer.isShutDown = false) :
    Sound r r := by
  refine ⟨active, rfl, Nat.le_refl _, Nat.le_refl _, fun k c found => ?_⟩
  refine absurd ?_ (isBound_of_isEmpty r k unbound)
  rw [isBound_eq, found]
  rfl

/-! ## Accounts -/

end SpanRegistry

/-- **The account of a key.** -/
structure Account where
  /-- The records that were started. -/
  started : List Span
  /-- The records that were exported. -/
  exported : List Span
  /-- A span is bound. -/
  isOpen : Bool

namespace SpanRegistry

variable {first r : SpanRegistry} {k k' : SpanKey} {events : List SpanEvent} {status : SpanStatus}
  {parent : Context} {t : Task}

/-- **The account of a key** since a first registry. -/
def account (first r : SpanRegistry) (k : SpanKey) : Account where
  started :=
    (r.tracer.spans.drop first.tracer.spans.length).filter fun s => s.key? = some k
  exported :=
    (r.tracer.exported.drop first.tracer.exported.length).filter fun s => s.key? = some k
  isOpen := r.isBound k

/-- In the beginning an account is empty. -/
theorem account_of_isEmpty (unbound : r.isEmpty = true) (k : SpanKey) :
    r.account r k = ⟨[], [], false⟩ := by
  simp [account, isBound_of_isEmpty r k unbound]

/-! ### Binding -/

/-- **Binding a free key** starts a span. -/
theorem exists_bind (sound : Sound first r) (records : first.tracer.sampler.Records parent)
    (unbound : ¬ r.isBound t.spanKey = true) :
    ∃ c s, c.handle = some r.tracer.spans.length ∧ s.IsStarted parent t ∧ s.IsBlank ∧
      (r.bind t.spanKey parent t.spanAttributes).2 = ⟨{ r.tracer with
        started := r.tracer.started + 1
        spans := r.tracer.spans ++ [s] }, r.bound.insert t.spanKey c⟩ := by
  have missing : r.lookup t.spanKey = none := by
    rwa [isBound_eq, Option.not_isSome_iff_eq_none] at unbound
  have sampled := records
  rw [← sound.sampler] at sampled
  unfold bind
  rw [missing]
  unfold Tracer.start
  simp only [sound.active, sampled _, Bool.false_eq_true, if_false, if_true]
  refine ⟨_, _, rfl, ⟨rfl, rfl, rfl, fun a inside => ?_, ?_⟩, ⟨rfl, rfl, rfl⟩, rfl⟩
  · simp [inside]
  · exact List.take_of_length_le (show 8 ≤ 128 by decide)

theorem sound_bind (sound : Sound first r) (records : first.tracer.sampler.Records parent) :
    Sound first (r.bind t.spanKey parent t.spanAttributes).2 := by
  by_cases bound : r.isBound t.spanKey = true
  · rwa [bind_of_isBound bound]
  obtain ⟨c, s, handle, started, blank, after⟩ := exists_bind sound records bound
  rw [after]
  refine ⟨sound.active, sound.sampler, ?_, sound.exported, fun k c' found => ?_⟩
  · exact Nat.le_trans sound.spans (by simp)
  rw [lookup, Keyed.find?_insert] at found
  split at found
  · next same =>
    obtain rfl := Option.some.inj found
    exact ⟨_, s, handle, sound.spans, by simp, same ▸ started.key?_eq, blank⟩
  · obtain ⟨i, s', handle, late, at_, key, blank⟩ := sound.bound k c' found
    refine ⟨i, s', handle, late, ?_, key, blank⟩
    exact (List.getElem?_append_left (List.getElem?_eq_some_iff.1 at_).1).trans at_

/-- **Binding a free key** adds one record to its account, and opens it. -/
theorem account_bind_self (sound : Sound first r) (records : first.tracer.sampler.Records parent)
    (unbound : ¬ r.isBound t.spanKey = true) :
    ∃ s, s.IsStarted parent t ∧ s.IsBlank ∧
      first.account (r.bind t.spanKey parent t.spanAttributes).2 t.spanKey =
        ⟨(first.account r t.spanKey).started ++ [s], (first.account r t.spanKey).exported,
          true⟩ := by
  have bound := (isBound_bind r t.spanKey t.spanKey parent t.spanAttributes).2 (.inl rfl)
  obtain ⟨c, s, -, started, blank, after⟩ := exists_bind sound records unbound
  refine ⟨s, started, blank, ?_⟩
  rw [account, bound, after]
  simp [account, List.drop_append_of_le_length sound.spans, started.key?_eq]

/-- Binding a key that is bound leaves its account. -/
theorem account_bind_of_isBound (bound : r.isBound k = true) (attributes : List Trace.Attribute) :
    first.account (r.bind k parent attributes).2 = first.account r := by
  rw [bind_of_isBound bound]

/-- **Binding leaves the accounts of other keys.** -/
theorem account_bind_other (sound : Sound first r) (records : first.tracer.sampler.Records parent)
    (other : k ≠ t.spanKey) :
    first.account (r.bind t.spanKey parent t.spanAttributes).2 k = first.account r k := by
  by_cases unbound : r.isBound t.spanKey = true
  · rw [account_bind_of_isBound unbound]
  have same : (r.bind t.spanKey parent t.spanAttributes).2.isBound k = r.isBound k :=
    Bool.eq_iff_iff.2 ((isBound_bind r t.spanKey k parent t.spanAttributes).trans
      (or_iff_right other))
  obtain ⟨c, s, -, started, -, after⟩ := exists_bind sound records unbound
  rw [account, same, after]
  simp [account, List.drop_append_of_le_length sound.spans, started.key?_eq, Ne.symm other]

/-! ### Shutting -/

theorem shut_of_not_isBound (unbound : ¬ r.isBound k = true) : r.shut k events status = r := by
  rw [isBound_eq, Option.not_isSome_iff_eq_none] at unbound
  rw [shut, unbound]

/-- **Shutting a bound key** ends its span, once. -/
theorem shut_eq {c : Context} {i : Nat} {s : Span} (found : r.lookup k = some c)
    (handle : c.handle = some i) (at_ : r.tracer.spans[i]? = some s) (blank : s.IsBlank)
    (room : Trace.HasRoom events status) :
    r.shut k events status = ⟨{ r.tracer with
      spans := r.tracer.spans.modify i fun _ => s.over events status
      exported := r.tracer.exported ++ [s.over events status] }, r.bound.erase k⟩ := by
  have closed : (r.close c events status).lookup k = some c := found
  rw [shut, found]
  dsimp only
  rw [unbind, closed]
  dsimp only
  rw [close, Tracer.finish_blank handle at_ blank room,
    Tracer.finish_of_ended (s := s.over events status) handle (by simp [at_]) rfl]

/-- A bound key has a record, and shutting the key closes it. -/
theorem exists_shut (sound : Sound first r) (room : Trace.HasRoom events status)
    (bound : r.isBound k = true) :
    ∃ i s, first.tracer.spans.length ≤ i ∧ r.tracer.spans[i]? = some s ∧ s.key? = some k ∧
      r.shut k events status = ⟨{ r.tracer with
        spans := r.tracer.spans.modify i fun _ => s.over events status
        exported := r.tracer.exported ++ [s.over events status] }, r.bound.erase k⟩ := by
  rw [isBound_eq, Option.isSome_iff_exists] at bound
  obtain ⟨c, found⟩ := bound
  obtain ⟨i, s, handle, late, at_, key, blank⟩ := sound.bound k c found
  exact ⟨i, s, late, at_, key, shut_eq found handle at_ blank room⟩

theorem isBound_shut :
    (r.shut k events status).isBound k' = true ↔ k' ≠ k ∧ r.isBound k' = true := by
  by_cases bound : r.isBound k = true
  · obtain ⟨c, found⟩ := Option.isSome_iff_exists.1 (isBound_eq r k ▸ bound)
    rw [shut, found, isBound_unbind]
    rfl
  · rw [shut_of_not_isBound bound]
    refine ⟨fun bound' => ⟨?_, bound'⟩, And.right⟩
    rintro rfl
    exact bound bound'

theorem sound_shut (sound : Sound first r) (room : Trace.HasRoom events status) :
    Sound first (r.shut k events status) := by
  by_cases bound : r.isBound k = true
  · obtain ⟨i, s, late, at_, key, after⟩ := exists_shut sound room bound
    rw [after]
    refine ⟨sound.active, sound.sampler, ?_, ?_, fun k' c found => ?_⟩
    · rw [List.length_modify]
      exact sound.spans
    · rw [List.length_append]
      exact Nat.le_add_right_of_le sound.exported
    rw [lookup, Keyed.find?_erase] at found
    split at found
    · cases found
    · next other =>
      obtain ⟨i', s', handle, late', at_', key', blank⟩ := sound.bound k' c found
      refine ⟨i', s', handle, late', ?_, key', blank⟩
      -- A record knows its key, so two keys never lead to one record.
      have apart : i ≠ i' := by
        rintro rfl
        obtain rfl := Option.some.inj (at_.symm.trans at_')
        exact other (Option.some.inj (key'.symm.trans key))
      simp [apart, at_']
  · rwa [shut_of_not_isBound bound]

/-- **Shutting a bound key** with one record closes the record, and exports it. -/
theorem account_shut_self (sound : Sound first r) (room : Trace.HasRoom events status) {s : Span}
    (bound : r.isBound k = true) (started : (first.account r k).started = [s]) :
    first.account (r.shut k events status) k = ⟨[s.over events status],
      (first.account r k).exported ++ [s.over events status], false⟩ := by
  have free : (r.shut k events status).isBound k = false := by
    rw [← Bool.not_eq_true, isBound_shut]
    exact fun h => h.1 rfl
  obtain ⟨i, s', late, at_, key, after⟩ := exists_shut sound room bound
  have key' : (s'.over events status).key? = some k := key
  obtain ⟨rfl, closed⟩ := filter_modify_of_pos (f := fun _ => s'.over events status)
    ((getElem?_drop_sub late).trans at_) (decide_eq_true key) (decide_eq_true key') started
  rw [account, free, after]
  dsimp only
  rw [List.drop_modify_of_ge _ _ _ _ late, closed, List.drop_append_of_le_length sound.exported,
    List.filter_append]
  simp [account, key']

/-- **Shutting leaves the accounts of other keys.** -/
theorem account_shut_other (sound : Sound first r) (room : Trace.HasRoom events status)
    (other : k' ≠ k) : first.account (r.shut k events status) k' = first.account r k' := by
  by_cases bound : r.isBound k = true
  · have same : (r.shut k events status).isBound k' = r.isBound k' :=
      Bool.eq_iff_iff.2 (isBound_shut.trans (and_iff_right other))
    obtain ⟨i, s, late, at_, key, after⟩ := exists_shut sound room bound
    have apart : decide (s.key? = some k') = false := by simp [key, Ne.symm other]
    have key' : (s.over events status).key? = some k := key
    rw [account, same, after]
    dsimp only
    rw [List.drop_modify_of_ge _ _ _ _ late,
      filter_modify_of_neg ((getElem?_drop_sub late).trans at_) apart apart,
      List.drop_append_of_le_length sound.exported, List.filter_append]
    simp [account, key', Ne.symm other]
  · rw [shut_of_not_isBound bound]

end SpanRegistry

end DeployChecks
