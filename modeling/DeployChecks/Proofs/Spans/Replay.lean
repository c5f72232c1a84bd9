import DeployChecks.Proofs.Spans.Account

/-!
# Proofs/Spans/Replay — spans follow from findings

All that the spans of a run depend on is what the passes find out about tasks, in order: that one
was created, read back, or is missing.  The spans are these **findings**, replayed.  Findings come
in a certain order (`Finding.Before`): a task is created before anything else is found out about it,
and once it was seen finished or missing it is never read back again.  Replayed in such an order,
the account of a task that was created has one record, which is exported once the task was seen
finished or missing.  Main definitions: `Finding`, `SpanRegistry.replay`, `Account.Tells`; main
statement: `account_of_created`.
-/

namespace DeployChecks

open Trace (Context Sampler Span SpanEvent SpanStatus)

/-- **What a pass finds out** about a task. -/
inductive Finding where
  /-- It was created, in the context of the pass. -/
  | created (context : Context) (t : Task)
  /-- It was read back, in the context of the pass. -/
  | read (context : Context) (t : Task)
  /-- There is no such task. -/
  | missing (ns name : String)

namespace Finding

/-- The key of the task's span. -/
def key : Finding → SpanKey
  | created _ t | read _ t => t.spanKey
  | missing ns name => .forTask ns name

/-- **How a span must end** after a finding: what happened, and its status. -/
def ending? : Finding → Option (List SpanEvent × SpanStatus)
  | created _ _ => none
  | read _ t =>
    match t.state with
    | .pending | .running => none
    | .succeeded => some ([⟨s!"{t.name} has finished", []⟩], .ok)
    | .failed => some
        ([⟨s!"{t.name} has failed", []⟩,
            ⟨s!"task '{t.name}' failed with reason: '{t.status.message}'",
              [("reason", t.status.message)]⟩],
          .error "Failed")
  | missing _ name => some ([⟨s!"{name} has vanished", []⟩], .error "Vanished")

/-- The task was seen finished. -/
def isFinish : Finding → Bool
  | read _ t => t.state.isTerminal
  | created _ _ | missing _ _ => false

/-- **One finding can come before another**: what was found out about a task before it was created
is nothing; before it was read back, that it runs; before it was missing, that it is not
finished. -/
def Before (g f : Finding) : Prop :=
  g.key = f.key →
    match f with
    | created _ _ => False
    | read _ _ => g.ending? = none
    | missing _ _ => g.isFinish = false

/-- What starts with a finding is recorded. -/
def IsRecorded (s : Sampler) : Finding → Prop
  | created c _ | read c _ => s.Records c
  | missing _ _ => True

theorem ending?_of_isTerminal {c : Context} {t : Task} (terminal : t.state.isTerminal = true) :
    (read c t).ending? = some (Pass.closing t) := by
  cases state : t.state with
  | pending | running => rw [state] at terminal; cases terminal
  | succeeded | failed => simp [ending?, Pass.closing, TaskState.isSucceeded, state]

theorem ending?_of_runs {c : Context} {t : Task} (runs : t.state.isTerminal = false) :
    (read c t).ending? = none := by
  cases state : t.state with
  | pending | running => simp [ending?, state]
  | succeeded | failed => rw [state] at runs; cases runs

theorem hasRoom_of_ending {f : Finding} {events : List SpanEvent} {status : SpanStatus}
    (ending : f.ending? = some (events, status)) : Trace.HasRoom events status := by
  have vanished (name : String) :
      Trace.HasRoom [Pass.vanishing name] (.error "Vanished") :=
    ⟨show 1 ≤ 128 by decide, by simp [Pass.vanishing], rfl⟩
  have succeeded (text : String) : Trace.HasRoom [⟨text, []⟩] .ok :=
    ⟨show 1 ≤ 128 by decide, by simp, rfl⟩
  have failed (text text' message : String) :
      Trace.HasRoom [⟨text, []⟩, ⟨text', [("reason", message)]⟩] (.error "Failed") :=
    ⟨show 2 ≤ 128 by decide, by simp [Trace.maxKept], rfl⟩
  cases f with
  | created => cases ending
  | missing ns name =>
    obtain ⟨rfl, rfl⟩ := Prod.mk.inj (Option.some.inj ending)
    exact vanished name
  | read c t =>
    cases state : t.state with
    | pending | running => simp [ending?, state] at ending
    | succeeded =>
      simp only [ending?, state, Option.some.injEq, Prod.mk.injEq] at ending
      obtain ⟨rfl, rfl⟩ := ending
      exact succeeded _
    | failed =>
      simp only [ending?, state, Option.some.injEq, Prod.mk.injEq] at ending
      obtain ⟨rfl, rfl⟩ := ending
      exact failed _ _ _

end Finding

/-! ## One finding -/

namespace SpanRegistry

/-- The span of a task that is there is bound. -/
def opened (r : SpanRegistry) : Finding → SpanRegistry
  | .created c t | .read c t => (r.bind t.spanKey c t.spanAttributes).2
  | .missing _ _ => r

/-- **The spans after a finding**: the span of the task is bound, and shut if it must end. -/
def replay (r : SpanRegistry) (f : Finding) : SpanRegistry :=
  match f.ending? with
  | none => r.opened f
  | some (events, status) => (r.opened f).shut f.key events status

theorem replay_of_none {r : SpanRegistry} {f : Finding} (runs : f.ending? = none) :
    r.replay f = r.opened f := by rw [replay, runs]

theorem replay_of_some {r : SpanRegistry} {f : Finding} {events : List SpanEvent}
    {status : SpanStatus} (ends : f.ending? = some (events, status)) :
    r.replay f = (r.opened f).shut f.key events status := by rw [replay, ends]

/-- A task that was read back is bound, or settled. -/
theorem replay_read (r : SpanRegistry) (c : Context) (t : Task) :
    r.replay (.read c t) =
      if t.state.isTerminal then r.settle c t else (r.bind t.spanKey c t.spanAttributes).2 := by
  split
  · next ended => rw [replay_of_some (Finding.ending?_of_isTerminal ended), settle_eq_shut]; rfl
  · next runs => rw [replay_of_none (Finding.ending?_of_runs (by simpa using runs))]; rfl

/-- A task that is missing has vanished. -/
theorem replay_missing (r : SpanRegistry) (ns name : String) :
    r.replay (.missing ns name) = r.vanish ns name := by
  rw [vanish_eq_shut]
  rfl

variable {first r : SpanRegistry} {f : Finding} {k : SpanKey}

theorem sound_opened (sound : Sound first r) (recorded : f.IsRecorded first.tracer.sampler) :
    Sound first (r.opened f) := by
  cases f with
  | created | read => exact sound_bind sound recorded
  | missing => exact sound

theorem account_opened_other (sound : Sound first r)
    (recorded : f.IsRecorded first.tracer.sampler) (other : k ≠ f.key) :
    first.account (r.opened f) k = first.account r k := by
  cases f with
  | created | read => exact account_bind_other sound recorded other
  | missing => rfl

theorem opened_of_isBound (bound : r.isBound f.key = true) : r.opened f = r := by
  cases f with
  | created | read => exact bind_of_isBound bound _ _
  | missing => rfl

/-- **A sound registry stays sound.** -/
theorem sound_replay (sound : Sound first r) (recorded : f.IsRecorded first.tracer.sampler) :
    Sound first (r.replay f) := by
  have opened := sound_opened sound recorded
  cases ends : f.ending? with
  | none => rwa [replay_of_none ends]
  | some ending =>
    rw [replay_of_some ends]
    exact sound_shut opened (Finding.hasRoom_of_ending ends)

/-- **A finding leaves the accounts of other keys.** -/
theorem account_replay_other (sound : Sound first r)
    (recorded : f.IsRecorded first.tracer.sampler) (other : k ≠ f.key) :
    first.account (r.replay f) k = first.account r k := by
  have same := account_opened_other sound recorded other
  cases ends : f.ending? with
  | none => rw [replay_of_none ends, same]
  | some ending =>
    rw [replay_of_some ends, account_shut_other (sound_opened sound recorded)
      (Finding.hasRoom_of_ending ends) other, same]

/-- **The account of a task that is found finished or missing** is closed. -/
theorem account_replay_of_ends (sound : Sound first r) {s : Span} {events : List SpanEvent}
    {status : SpanStatus} (account : first.account r f.key = ⟨[s], [], true⟩)
    (ends : f.ending? = some (events, status)) :
    first.account (r.replay f) f.key
      = ⟨[s.over events status], [s.over events status], false⟩ := by
  have bound : r.isBound f.key = true := congrArg Account.isOpen account
  have shut := account_shut_self sound (Finding.hasRoom_of_ending ends) bound
    (congrArg Account.started account)
  rw [show (first.account r f.key).exported = [] from congrArg Account.exported account] at shut
  rw [replay_of_some ends, opened_of_isBound bound, shut, List.nil_append]

/-! ## One finding after the other -/

theorem sound_foldl_replay (sound : Sound first r) {findings : List Finding}
    (recorded : ∀ f ∈ findings, f.IsRecorded first.tracer.sampler) :
    Sound first (findings.foldl replay r) := by
  induction findings generalizing r with
  | nil => exact sound
  | cons f rest ih =>
    rw [List.forall_mem_cons] at recorded
    exact ih (sound_replay sound recorded.1) recorded.2

theorem account_foldl_other (sound : Sound first r) {findings : List Finding}
    (recorded : ∀ f ∈ findings, f.IsRecorded first.tracer.sampler)
    (others : ∀ f ∈ findings, k ≠ f.key) :
    first.account (findings.foldl replay r) k = first.account r k := by
  induction findings generalizing r with
  | nil => rfl
  | cons f rest ih =>
    rw [List.forall_mem_cons] at recorded others
    rw [List.foldl_cons, ih (sound_replay sound recorded.1) recorded.2 others.2,
      account_replay_other sound recorded.1 others.1]

/-- An account that is closed stays so, if the task is at most found missing again. -/
theorem account_foldl_of_closed (sound : Sound first r) {findings : List Finding}
    (recorded : ∀ f ∈ findings, f.IsRecorded first.tracer.sampler)
    (gone : ∀ f ∈ findings, k = f.key → ∃ ns name, f = .missing ns name)
    (closed : ¬ r.isBound k = true) :
    first.account (findings.foldl replay r) k = first.account r k := by
  induction findings generalizing r with
  | nil => rfl
  | cons f rest ih =>
    rw [List.forall_mem_cons] at recorded gone
    have same : first.account (r.replay f) k = first.account r k := by
      by_cases about : k = f.key
      · obtain ⟨ns, name, rfl⟩ := gone.1 about
        subst about
        rw [replay_missing, vanish_eq_shut]
        exact congrArg (first.account · _) (shut_of_not_isBound closed)
      · exact account_replay_other sound recorded.1 about
    have closed' : ¬ (r.replay f).isBound k = true := by
      rwa [show (r.replay f).isBound k = r.isBound k from congrArg Account.isOpen same]
    rw [List.foldl_cons, ih (sound_replay sound recorded.1) recorded.2 gone.2 closed', same]

end SpanRegistry

/-- **How the span of a key must end**, by the first finding that ends it. -/
def firstEnding (k : SpanKey) (findings : List Finding) : Option (List SpanEvent × SpanStatus) :=
  (findings.filter (·.key = k)).findSome? (·.ending?)

/-- **What the account of a created task tells**: one span was started, in the context of its
creation; as long as it need not end it is open, and afterwards it was exported once, with what
happened and its status. -/
inductive Account.Tells (c : Context) (t : Task) :
    Account → Option (List SpanEvent × SpanStatus) → Prop
  /-- The span is open. -/
  | open_ {s : Span} (started : s.IsStarted c t) (ended : s.ended = false) :
    Tells c t ⟨[s], [], true⟩ none
  /-- The span was exported. -/
  | closed {s : Span} (started : s.IsStarted c t) (ended : s.ended = true) :
    Tells c t ⟨[s], [s], false⟩ (some (s.events, s.status))

namespace SpanRegistry

variable {first r : SpanRegistry} {k : SpanKey}

/-- **An open account after more findings.** -/
theorem account_foldl_of_open (sound : Sound first r) {findings : List Finding} {s : Span}
    (recorded : ∀ f ∈ findings, f.IsRecorded first.tracer.sampler)
    (order : findings.Pairwise Finding.Before)
    (account : first.account r k = ⟨[s], [], true⟩) :
    first.account (findings.foldl replay r) k =
      match firstEnding k findings with
      | none => ⟨[s], [], true⟩
      | some (events, status) => ⟨[s.over events status], [s.over events status], false⟩ := by
  induction findings generalizing r with
  | nil => exact account
  | cons f rest ih =>
    rw [List.forall_mem_cons] at recorded
    rw [List.pairwise_cons] at order
    have sound' := sound_replay sound recorded.1
    rw [List.foldl_cons]
    by_cases about : f.key = k
    · subst about
      have bound : r.isBound f.key = true := congrArg Account.isOpen account
      have found : firstEnding f.key (f :: rest) = f.ending?.or (firstEnding f.key rest) := by
        unfold firstEnding
        rw [List.filter_cons_of_pos (by simp), List.findSome?_cons]
        cases f.ending? <;> rfl
      rw [found]
      cases ends : f.ending? with
      | none =>
        rw [Option.none_or]
        refine ih sound' recorded.2 order.2 ?_
        rw [replay_of_none ends, opened_of_isBound bound, account]
      | some ending =>
        obtain ⟨events, status⟩ := ending
        have closed := account_replay_of_ends sound account ends
        -- The order lets nothing follow an ending but that the task is missing.
        have gone : ∀ g ∈ rest, f.key = g.key → ∃ ns name, g = .missing ns name := by
          intro g hg same
          have before := order.1 g hg same
          cases g with
          | created => cases before
          | read => rw [ends] at before; cases before
          | missing ns name => exact ⟨ns, name, rfl⟩
        rw [account_foldl_of_closed sound' recorded.2 gone, closed]
        · rfl
        · rw [show (r.replay f).isBound f.key = false from congrArg Account.isOpen closed]
          exact Bool.false_ne_true
    · have skipped : firstEnding k (f :: rest) = firstEnding k rest := by
        rw [firstEnding, List.filter_cons_of_neg (by simpa using about), firstEnding]
      rw [skipped]
      refine ih sound' recorded.2 order.2 ?_
      rw [account_replay_other sound recorded.1 (Ne.symm about), account]

/-- **The account of a created task.**  Replayed in order over a registry without open spans, the
findings leave one span for a task that was created; it was exported exactly if the task was found
finished or missing afterwards, and as the first such finding says. -/
theorem account_of_created (unbound : first.isEmpty = true)
    (active : first.tracer.isShutDown = false) {before after : List Finding} {c : Context}
    {t : Task} (recorded : ∀ f ∈ before ++ .created c t :: after, f.IsRecorded first.tracer.sampler)
    (order : (before ++ .created c t :: after).Pairwise Finding.Before) :
    Account.Tells c t
      (first.account ((before ++ .created c t :: after).foldl replay first) t.spanKey)
      (firstEnding t.spanKey after) := by
  rw [List.forall_mem_append, List.forall_mem_cons] at recorded
  rw [List.pairwise_append, List.pairwise_cons] at order
  have others : ∀ f ∈ before, t.spanKey ≠ f.key := fun f hf same =>
    order.2.2 f hf _ List.mem_cons_self same.symm
  have begun := sound_foldl_replay (sound_of_isEmpty unbound active) recorded.1
  have nothing := account_foldl_other (sound_of_isEmpty unbound active) recorded.1 others
  rw [account_of_isEmpty unbound] at nothing
  have free : ¬ (before.foldl replay first).isBound t.spanKey = true := by
    rw [show (before.foldl replay first).isBound t.spanKey = false from
      congrArg Account.isOpen nothing]
    exact Bool.false_ne_true
  obtain ⟨s, started, blank, opened⟩ := account_bind_self begun recorded.2.1 free
  rw [nothing, List.nil_append] at opened
  rw [List.foldl_append, List.foldl_cons, replay_of_none rfl, SpanRegistry.opened,
    account_foldl_of_open (sound_bind begun recorded.2.1) recorded.2.2 order.2.1.2 opened]
  cases firstEnding t.spanKey after with
  | none => exact .open_ started blank.ended
  | some ending =>
    exact .closed (s := s.over ending.1 ending.2)
      ⟨started.name, started.kind, started.parent, started.trace, started.attributes⟩ rfl

end SpanRegistry

end DeployChecks
