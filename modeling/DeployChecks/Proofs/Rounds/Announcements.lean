import DeployChecks.Proofs.Engine.News
import DeployChecks.Proofs.Rounds.Basic

/-!
# Proofs/Rounds/Announcements — what is announced, and what is stored

A change of state is announced by a message in words.  The wording gives the definition and both
states away, so the announcements can be read back: for each definition, a list of changes.  The
list is a **log** of the stored state if every change starts where the one before it ended, and the
last one ends at what is stored.  It always is one from the first state on that was stored; but
whether it tells how that came about depends on the very first pass: a pass that is cut short hands
over entries of definitions that it never reached, and nobody hears of these.  Main definitions:
`changesOf`, `Logs`; main statements: `announcements_log_what_is_stored`, and the case
`an_entry_is_stored_unannounced`.
-/

namespace DeployChecks

/-! ## Changes and their wording -/

/-- **A change of state.** -/
structure StateChange where
  /-- The state before, if there was one. -/
  previous : Option TaskState
  /-- The state after. -/
  current : TaskState
  deriving DecidableEq

namespace StateChange

/-- Every change, in order. -/
def all : List StateChange :=
  (none :: TaskState.all.map some).flatMap fun previous => TaskState.all.map (⟨previous, ·⟩)

theorem mem_all (c : StateChange) : c ∈ all := by
  obtain ⟨previous, current⟩ := c
  cases current <;> rcases previous with - | (_ | _ | _ | _) <;> decide

/-- The message of a change. -/
def message (definition : String) (c : StateChange) : String :=
  Pass.changeMessage definition c.previous c.current

/-- The end of the message, after the definition. -/
def ending (c : StateChange) : List Char :=
  match c.previous with
  | some previous =>
    " status changed from ".toList ++ previous.name.toList ++ " to ".toList
      ++ c.current.name.toList
  | none => " status set to ".toList ++ c.current.name.toList

theorem toList_message (definition : String) (c : StateChange) :
    (c.message definition).toList = "task ".toList ++ (definition.toList ++ c.ending) := by
  obtain ⟨_ | previous, current⟩ := c <;> simp [message, Pass.changeMessage, ending, toString]

/-- No message ends like another one. -/
theorem eq_of_ending {c c' : StateChange} (h : c.ending <:+ c'.ending) : c = c' := by
  have apart : ∀ c ∈ all, ∀ c' ∈ all, c.ending <:+ c'.ending → c = c' := by decide +kernel
  exact apart c c.mem_all c' c'.mem_all h

/-- **The message gives definition and change away.** -/
theorem message_inj {d d' : String} {c c' : StateChange} :
    c.message d = c'.message d' ↔ d = d' ∧ c = c' := by
  refine ⟨fun same => ?_, fun ⟨hd, hc⟩ => by rw [hd, hc]⟩
  have chars := congrArg String.toList same
  rw [toList_message, toList_message, List.append_cancel_left_eq] at chars
  obtain rfl : c = c' := by
    obtain h | h := List.suffix_or_suffix_of_suffix (List.suffix_append d.toList c.ending)
      (chars ▸ List.suffix_append d'.toList c'.ending)
    · exact eq_of_ending h
    · exact (eq_of_ending h).symm
  exact ⟨String.toList_inj.1 (List.append_cancel_right chars), rfl⟩

/-- **The change from one state to another**, if it is one. -/
def between (previous : Option TaskState) (current : TaskState) : List StateChange :=
  if previous = some current then [] else [⟨previous, current⟩]

end StateChange

/-- **The change of a definition that an event tells of.** -/
def PhaseEvent.change? (definition : String) (event : PhaseEvent) : Option StateChange :=
  StateChange.all.find? fun c => event.message = c.message definition

theorem PhaseEvent.change?_of_message {event : PhaseEvent} {d : String} {c : StateChange}
    (message : event.message = c.message d) (definition : String) :
    event.change? definition = if d = definition then some c else none := by
  unfold change?
  cases found : StateChange.all.find? fun c => event.message = c.message definition with
  | none =>
    refine (if_neg fun same => ?_).symm
    exact List.find?_eq_none.1 found c c.mem_all (by simpa [same] using message)
  | some c' =>
    have same : event.message = c'.message definition := by simpa using List.find?_some found
    obtain ⟨rfl, rfl⟩ := StateChange.message_inj.1 (message.symm.trans same)
    exact (if_pos rfl).symm

/-! ## Reading announcements back -/

/-- **The announcements of changes** among calls, in order. -/
def announced (calls : List Call) : List PhaseEvent :=
  calls.filterMap fun
    | .emit event => if event.reason = PhaseEvent.statusChanged then some event else none
    | _ => none

/-- **The changes of a definition** that calls announce, in order. -/
def changesOf (definition : String) (calls : List Call) : List StateChange :=
  (announced calls).filterMap (·.change? definition)

@[simp] theorem announced_append (l l' : List Call) :
    announced (l ++ l') = announced l ++ announced l' := List.filterMap_append

/-- They are the events that tell of a changed state. -/
theorem announced_eq (calls : List Call) :
    announced calls = (emitted calls).filter (·.reason = PhaseEvent.statusChanged) := by
  rw [announced, emitted, List.filter_filterMap]
  congr 1
  funext c
  cases c <;> simp [Option.filter]

theorem announced_changed (item : PhaseItem) (phase : Phase) (severity : Severity)
    (message : String) (now : Timestamp) :
    announced [.emit (.about item phase severity PhaseEvent.statusChanged message now)]
      = [.about item phase severity PhaseEvent.statusChanged message now] := by
  simp [announced, PhaseEvent.about]

namespace Engine

variable {σ τ : Type} {e : Engine σ τ} {p : Pass} {prior : List ItemStatus} {s s' : Scene σ τ}

/-- **A visit announces no change.** -/
theorem Course.announced {status : ItemStatus} {result : Except Interruption Outcome}
    (course : Course e p status s result s') :
    DeployChecks.announced s'.calls = DeployChecks.announced s.calls := by
  rw [announced_eq, announced_eq]
  cases result with
  | error i => rw [course.emitted_of_error]
  | ok o =>
    obtain ⟨now, emitted⟩ := course.emitted
    have complaints : ∀ event ∈ o.complaints p.item now,
        ¬ (decide (event.reason = PhaseEvent.statusChanged)) = true := by
      unfold Outcome.complaints
      split <;> simp [PhaseEvent.about, PhaseEvent.failed, PhaseEvent.statusChanged]
    rw [emitted, List.filter_append, List.filter_eq_nil_iff.2 complaints, List.append_nil]

/-- A turn that stops the pass announces no change. -/
theorem Turn.changesOf_error {d : String} {i : Interruption}
    (turn : Turn e p prior d s (.error i) s') (definition : String) :
    changesOf definition s'.calls = changesOf definition s.calls := by
  cases turn with
  | stopped look => obtain rfl := congrArg Prod.snd look; rfl
  | interrupted look course =>
    obtain rfl := congrArg Prod.snd look
    rw [changesOf, course.announced]
    rfl

/-- **A turn announces the change of its definition**, and no other. -/
theorem Turn.changesOf_ok {d : String} {o : Outcome} (turn : Turn e p prior d s (.ok o) s')
    (definition : String) :
    changesOf definition s'.calls = changesOf definition s.calls ++
      if d = definition then
        StateChange.between ((findStatus d prior).map (·.state)) o.status.state
      else [] := by
  cases turn with
  | @done s₁ s₂ _ look course =>
    obtain rfl := congrArg Prod.snd look
    have before : changesOf definition s₂.calls = changesOf definition s.calls := by
      rw [changesOf, course.announced]
      rfl
    generalize (findStatus d prior).map (·.state) = previous
    unfold Scene.announceChange StateChange.between
    split
    · simp [before]
    · have told : (PhaseEvent.about p.item .reconcileTask .normal PhaseEvent.statusChanged
          (Pass.changeMessage d previous o.status.state)
          (s₂.sample e.backend.now).1).change? definition
            = if d = definition then some ⟨previous, o.status.state⟩ else none :=
        PhaseEvent.change?_of_message (c := ⟨previous, o.status.state⟩) rfl definition
      rw [← before, Scene.calls_announce, changesOf, announced_append, announced_changed,
        List.filterMap_append, ← changesOf, List.filterMap_cons, told]
      by_cases same : d = definition <;> simp [same]

/-- **What a pass announces of a definition**, turn by turn. -/
theorem changesOf_visitAll (definition : String) (definitions : List String) (r : Reconciliation)
    (w : World σ τ) :
    changesOf definition (e.visitAll p prior r definitions w).2.scene.calls
      = changesOf definition w.scene.calls ++
        ((e.dones p prior definitions w).filter (·.definition = definition)).flatMap fun d =>
          StateChange.between ((findStatus definition prior).map (·.state))
            d.outcome.status.state := by
  induction definitions generalizing r w with
  | nil => simp [visitAll, Run.map_apply, dones]
  | cons d rest ih =>
    have turn := e.turn_turn p prior d w
    rw [visitAll_cons, dones]
    generalize e.turn p prior d w = t at turn
    obtain ⟨result, w₁⟩ := t
    cases result with
    | error i =>
      have none := turn.changesOf_error definition
      simpa [Run.map_apply, scene_interrupted] using none
    | ok o =>
      rw [ih, turn.changesOf_ok definition, List.append_assoc]
      by_cases same : d = definition
      · subst same
        simp
      · simp [same]

end Engine

/-! ## Logs -/

/-- **Changes log a state** from one state on to another: each starts where the one before it
ended, and changes something. -/
inductive Logs : Option TaskState → List StateChange → Option TaskState → Prop
  /-- Nothing changes. -/
  | nil {a : Option TaskState} : Logs a [] a
  /-- One more change in front. -/
  | cons {a c : Option TaskState} {b : TaskState} {rest : List StateChange} (other : a ≠ some b)
      (logs : Logs (some b) rest c) : Logs a (⟨a, b⟩ :: rest) c

namespace Logs

theorem append {a b c : Option TaskState} {l l' : List StateChange} (h : Logs a l b)
    (h' : Logs b l' c) : Logs a (l ++ l') c := by
  induction h with
  | nil => exact h'
  | cons other _ ih => exact .cons other (ih h')

theorem between (a : Option TaskState) (b : TaskState) :
    Logs a (StateChange.between a b) (some b) := by
  unfold StateChange.between
  split
  · next same => rw [same]; exact .nil
  · next other => exact .cons other .nil

/-- A log has one beginning, if it has an entry or an end. -/
theorem start_unique {a a' : Option TaskState} {l : List StateChange} {c : Option TaskState}
    (h : Logs a l c) (h' : Logs a' l c) : a = a' := by
  cases h with
  | nil => cases h'; rfl
  | cons => cases h'; rfl

end Logs

/-! ## One round -/

/-- Where names are different, an element is the only one with its name. -/
theorem filter_eq_singleton {α β : Type} [DecidableEq β] {f : α → β} {l : List α} {a : α}
    (distinct : (l.map f).Nodup) (mem : a ∈ l) : l.filter (f · = f a) = [a] := by
  induction l with
  | nil => exact absurd mem List.not_mem_nil
  | cons x l ih =>
    rw [List.map_cons, List.nodup_cons] at distinct
    obtain rfl | mem := List.mem_cons.1 mem
    · have others : ∀ y ∈ l, ¬ (decide (f y = f a)) = true := fun y hy same =>
        distinct.1 (List.mem_map.2 ⟨y, hy, of_decide_eq_true same⟩)
      simpa using others
    · have other : f x ≠ f a := fun same => distinct.1 (same ▸ List.mem_map_of_mem mem)
      rw [List.filter_cons_of_neg (by simpa using other), ih distinct.2 mem]

namespace Round

variable {σ τ : Type} {r : Round σ τ} {group : CheckGroup} {kept : List ItemStatus}
  {definition : String}

/-- **The names that a round reaches**: all that are declared, or those before the one that stops
the pass. -/
def reached (r : Round σ τ) (group : CheckGroup) (kept : List ItemStatus) : List String :=
  (r.dones group kept).map (·.definition)

theorem changesOf_calls (r : Round σ τ) (group : CheckGroup) (kept : List ItemStatus)
    (definition : String) :
    changesOf definition (r.calls group kept)
      = ((r.dones group kept).filter (·.definition = definition)).flatMap fun d =>
          StateChange.between ((findStatus definition kept).map (·.state))
            d.outcome.status.state := by
  rw [calls, Engine.callsIn, reconcile_pass]
  exact Engine.changesOf_visitAll definition (r.declared group) .empty r.world

/-- **What a round announces of a definition** is how it comes from the old state to the one that is
stored, if the round reaches it.  Otherwise nothing is announced, and the old entry is stored. -/
theorem announces (kept : List ItemStatus) (distinct : (r.declared group).Nodup)
    (declared : definition ∈ r.declared group) :
    ∃ entry, findStatus definition (r.stored group kept) = some entry ∧
      (definition ∈ r.reached group kept →
        changesOf definition (r.calls group kept)
          = StateChange.between ((findStatus definition kept).map (·.state)) entry.state) ∧
      (definition ∉ r.reached group kept →
        changesOf definition (r.calls group kept) = [] ∧
          entry = statusOrFresh definition kept) := by
  have reached : (r.dones group kept).map (·.definition) <+: r.declared group :=
    r.engine.definitions_dones _ _ _ _
  by_cases mem : definition ∈ r.reached group kept
  · obtain ⟨d, hd, rfl⟩ := List.mem_map.1 mem
    have about : d.outcome.status.definition = d.definition :=
      (Engine.turn_of_mem_dones _ _ _ hd).2.definition
    have stored : d.outcome.status ∈ r.stored group kept := by
      rw [stored_eq]
      exact List.mem_append_left _ (List.mem_map_of_mem hd)
    refine ⟨d.outcome.status, about ▸ findStatus_of_mem_stored distinct stored, fun _ => ?_,
      absurd mem⟩
    rw [changesOf_calls, filter_eq_singleton (distinct.sublist reached.sublist) hd]
    simp
  · have skipped : (r.dones group kept).filter (·.definition = definition) = [] :=
      List.filter_eq_nil_iff.2 fun d hd same =>
        mem (List.mem_map.2 ⟨d, hd, of_decide_eq_true same⟩)
    have untouched : definition ∈ (r.declared group).drop (r.dones group kept).length := by
      obtain ⟨rest, split⟩ := reached
      rw [← split] at declared ⊢
      rw [← List.length_map (·.definition), List.drop_left]
      exact (List.mem_append.1 declared).resolve_left mem
    have stored : statusOrFresh definition kept ∈ r.stored group kept := by
      rw [stored_eq]
      exact List.mem_append_right _ (List.mem_map_of_mem untouched)
    have found := findStatus_of_mem_stored distinct stored
    rw [definition_statusOrFresh] at found
    exact ⟨_, found, fun h => absurd h mem, fun _ => ⟨by rw [changesOf_calls, skipped]; rfl, rfl⟩⟩

/-! ## Round after round -/

/-- **The changes of a definition** that rounds announce, in order. -/
def changes (group : CheckGroup) (definition : String) :
    List ItemStatus → List (Round σ τ) → List StateChange
  | _, [] => []
  | kept, r :: rounds =>
    changesOf definition (r.calls group kept)
      ++ changes group definition (r.stored group kept) rounds

/-- From a stored state on, a round announces what it stores. -/
theorem logs_stored (distinct : (r.declared group).Nodup) (declared : definition ∈ r.declared group)
    {before : ItemStatus} (found : findStatus definition kept = some before) :
    ∃ entry, findStatus definition (r.stored group kept) = some entry ∧
      Logs (some before.state) (changesOf definition (r.calls group kept)) (some entry.state) := by
  obtain ⟨entry, stored, reached, unreached⟩ := announces kept distinct declared
  refine ⟨entry, stored, ?_⟩
  by_cases mem : definition ∈ r.reached group kept
  · rw [reached mem, found]
    exact .between _ _
  · obtain ⟨silent, rfl⟩ := unreached mem
    rw [silent, statusOrFresh, found]
    exact .nil

/-- **From a stored state on, announcements log what is stored.** -/
theorem logs_run {names : List String} (distinct : names.Nodup) (declared : definition ∈ names)
    {rounds : List (Round σ τ)} (fixed : ∀ r ∈ rounds, r.declared group = names)
    {before : ItemStatus} (found : findStatus definition kept = some before) :
    ∃ entry, findStatus definition (run group kept rounds) = some entry ∧
      Logs (some before.state) (changes group definition kept rounds) (some entry.state) := by
  induction rounds generalizing kept before with
  | nil => exact ⟨before, found, .nil⟩
  | cons r rounds ih =>
    rw [List.forall_mem_cons] at fixed
    obtain ⟨entry, stored, logs⟩ := r.logs_stored (fixed.1 ▸ distinct) (fixed.1 ▸ declared) found
    obtain ⟨last, found, more⟩ := ih fixed.2 stored
    exact ⟨last, found, logs.append more⟩

end Round

/-- **What is announced logs what is stored**, up to the first pass.  Rounds over fixed and
different names start without entries.  Every declared definition then has an entry, and its
announcements log the state of the entry: from nothing, if the first round reached the definition,
and from pending, if it did not.  In the second case nothing tells of the first state that was
stored: the announcements are a log from nothing exactly if the first round reached the
definition. -/
theorem announcements_log_what_is_stored {σ τ : Type} (group : CheckGroup) (names : List String)
    (first : Round σ τ) (rounds : List (Round σ τ)) (definition : String) (distinct : names.Nodup)
    (fixed : ∀ r ∈ first :: rounds, r.declared group = names) (declared : definition ∈ names) :
    let announced := Round.changes group definition [] (first :: rounds)
    ∃ entry, findStatus definition (Round.run group [] (first :: rounds)) = some entry ∧
      Logs (if definition ∈ first.reached group [] then none else some .pending) announced
        (some entry.state) ∧
      (Logs none announced (some entry.state) ↔ definition ∈ first.reached group []) := by
  intro announced
  rw [List.forall_mem_cons] at fixed
  obtain ⟨before, stored, reached, unreached⟩ :=
    Round.announces [] (fixed.1 ▸ distinct) (fixed.1 ▸ declared)
  obtain ⟨entry, found, more⟩ := Round.logs_run distinct declared fixed.2 stored
  refine ⟨entry, found, ?_⟩
  -- A name that was not reached is stored as pending, and from there on everything is announced.
  by_cases mem : definition ∈ first.reached group []
  · have logs : Logs none announced (some entry.state) := by
      refine .append ?_ more
      rw [reached mem]
      exact .between _ _
    rw [if_pos mem]
    exact ⟨logs, fun _ => mem, fun _ => logs⟩
  · have logs : Logs (some .pending) announced (some entry.state) := by
      obtain ⟨silent, rfl⟩ := unreached mem
      refine .append ?_ more
      rw [silent]
      exact .nil
    rw [if_neg mem]
    exact ⟨logs, fun other => absurd (other.start_unique logs) (by simp), fun h => absurd h mem⟩

/-- A round creates a task, the next one sees it finished; both changes are announced. -/
theorem announcements_log_what_is_stored_until_the_end :
    let first := Sample.lavishRound ["smoke"]
    let rounds := [Sample.lavishRound ["smoke"]]
    let announced := Round.changes .pre "smoke" [] (first :: rounds)
    announced = [⟨none, .pending⟩, ⟨some .pending, .succeeded⟩] ∧
      Logs none announced (some .succeeded) := by
  intro first rounds announced
  have told : announced = [⟨none, .pending⟩, ⟨some .pending, .succeeded⟩] := by decide +kernel
  obtain ⟨entry, found, -, whole⟩ := announcements_log_what_is_stored .pre ["smoke"] first rounds
    "smoke" (List.nodup_singleton _)
    (by simp [first, rounds, Sample.lavishRound, Round.declared, Sample.item, PhaseItem.declared])
    (List.mem_singleton_self _)
  have stored : (findStatus "smoke" (Round.run .pre [] (first :: rounds))).map (·.state)
      = some .succeeded := by decide +kernel
  have reached : "smoke" ∈ first.reached .pre [] := by decide +kernel
  rw [found, Option.map_some] at stored
  exact ⟨told, stored ▸ whole.2 reached⟩

/-- A pass that is cancelled before it begins. -/
def Sample.cancelledRound (names : List String) : Round Unit Unit :=
  let r := lavishRound names
  { r with engine.backend := { r.engine.backend with isCancelled := pure true } }

/-- **An entry is stored that nobody hears of**: a cancelled pass hands over a pending entry, and
the next one creates its task; neither announces anything. -/
theorem an_entry_is_stored_unannounced :
    let rounds := [Sample.cancelledRound ["smoke"], Sample.lavishRound ["smoke"]]
    findStatus "smoke" (Round.run .pre [] rounds)
        = some ⟨"smoke", "pre-smoke-10000", .pending, some default, none⟩ ∧
      Round.changes .pre "smoke" [] rounds = [] ∧
      ¬ Logs none (Round.changes .pre "smoke" [] rounds) (some .pending) := by
  intro rounds
  have stored : findStatus "smoke" (Round.run .pre [] rounds)
      = some ⟨"smoke", "pre-smoke-10000", .pending, some default, none⟩ := by decide +kernel
  have silent : Round.changes .pre "smoke" [] rounds = [] := by decide +kernel
  refine ⟨stored, silent, fun logs => ?_⟩
  rw [silent] at logs
  cases logs

end DeployChecks
