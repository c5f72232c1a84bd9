import DeployChecks.Proofs.Engine.Failure
import DeployChecks.Proofs.Engine.News
import DeployChecks.Proofs.Engine.Once

/-!
# Proofs/Engine/Script — the calls of a pass, from the answers alone

Which calls a pass makes, and in which order, follows from what the backend replies; nothing that an
observer answers matters.  The **replies** of a turn say what came of each question, in the order in
which they are asked: the token, the task, the definition, the creation.  The **script** of a turn is
read off its replies, without running anything.  A pass makes the calls of the scripts of its turns,
one after the other, and no others.  Operations on a span that was handed out are no calls of the
binder and are left aside, and so are the times of events.  Main definitions: `TurnReplies.script`,
`Engine.replies`; main statement: `calls_follow_script`.
-/

namespace DeployChecks

/-! ## Calls -/

/-- **A call to the store, the resolver, the binder or the sink**, but for the time of an event. -/
def Call.addressed? : Call → Option Call
  | close _ _ _ => none
  | emit event => some (.emit event.timeless)
  | c => some c

/-- The calls to the store, the resolver, the binder and the sink, in order. -/
def addressed (calls : List Call) : List Call := calls.filterMap Call.addressed?

@[simp] theorem addressed_append (l l' : List Call) :
    addressed (l ++ l') = addressed l ++ addressed l' := List.filterMap_append

/-! ## Replies -/

/-- **What comes of a question** that the token cancels. -/
inductive Reply (α : Type) where
  /-- The token was cancelled before; the question was not asked. -/
  | unasked
  /-- It was cancelled before there was an answer. -/
  | dropped
  /-- There is an answer. -/
  | given (a : α)

namespace Reply

variable {α : Type}

/-- The reply to a question that was asked. -/
def of : Option α → Reply α
  | none => dropped
  | some a => given a

/-- The answer, if there is one. -/
def answer? : Reply α → Option α
  | unasked | dropped => none
  | given a => some a

/-- The question is called out, unless it was not asked. -/
def calls (c : Call) : Reply α → List Call
  | unasked => []
  | dropped | given _ => [c]

@[simp] theorem answer?_of (answer : Option α) : (of answer).answer? = answer := by
  cases answer <;> rfl

@[simp] theorem calls_of (answer : Option α) (c : Call) : (of answer).calls c = [c] := by
  cases answer <;> rfl

end Reply

/-- **What comes of a creation.** -/
inductive CreationReplies where
  /-- There is no definition. -/
  | unresolved (reply : Reply ResolveError)
  /-- There is one; a number is drawn for the name, and the task is put into the store. -/
  | resolved (d : TaskDefinition) (draw : Nat) (reply : Reply (Except StoreError Task))

/-- **What comes of a turn.** -/
inductive TurnReplies where
  /-- The token is cancelled. -/
  | stopped
  /-- The entry is finished; nothing is asked. -/
  | finished
  /-- The task cannot be read, and not because there is none. -/
  | unread (reply : Reply StoreError)
  /-- The task is read back. -/
  | read (t : Task)
  /-- There is no such task any more. -/
  | lost (creation : CreationReplies)
  /-- There was no task yet. -/
  | bare (creation : CreationReplies)

namespace Backend

variable {σ α : Type} (b : Backend σ)

/-- What the backend replies to a question. -/
def reply (f : Act σ (Option α)) : StateM σ (Reply α) := do
  if ← b.isCancelled then return .unasked
  else return .of (← f).1

/-- **What the backend replies in a creation.** -/
def creationReplies (p : Pass) (definition : String) : StateM σ CreationReplies := do
  match ← b.reply (b.resolve definition p.item.ns) with
  | .unasked => return .unresolved .unasked
  | .dropped => return .unresolved .dropped
  | .given (.error err) => return .unresolved (.given err)
  | .given (.ok d) =>
    let draw ← b.draw
    return .resolved d draw (← b.reply (b.create (p.stamp d draw)))

/-- What the backend replies in the visit of an entry. -/
def visitReplies (p : Pass) (x : ItemStatus) : StateM σ TurnReplies := do
  if x.isTerminal then return .finished
  else if x.hasTask then
    match ← b.reply (b.get p.item.ns x.task) with
    | .unasked => return .unread .unasked
    | .dropped => return .unread .dropped
    | .given (.ok t) => return .read t
    | .given (.error err) =>
      if err.isNotFound then return .lost (← b.creationReplies p x.definition)
      else return .unread (.given err)
  else return .bare (← b.creationReplies p x.definition)

/-- **What the backend replies in the turn of an entry.** -/
def turnReplies (p : Pass) (x : ItemStatus) : StateM σ TurnReplies := do
  if ← b.isCancelled then return .stopped
  else b.visitReplies p x

end Backend

/-! ## Scripts -/

namespace CreationReplies

/-- **The calls of a creation**: the definition; only with it, the task that is built from it; then
the span of the task that was stored, or the warning that none was. -/
def script (p : Pass) (definition : String) : CreationReplies → List Call
  | unresolved reply => reply.calls (.resolve definition p.item.ns)
  | resolved d draw reply =>
    .resolve definition p.item.ns :: (reply.calls (.create (p.stamp d draw)) ++
      match reply with
      | .unasked | .dropped => []
      | .given (.ok t) => [.openSpan t.spanKey]
      | .given (.error _) => [.emit (.about p.item .createTask .warning PhaseEvent.failed
          (Pass.createFailedMessage definition) default)])

/-- The pass goes on after the creation. -/
def goesOn : CreationReplies → Bool
  | unresolved reply => reply.answer?.isSome
  | resolved _ _ reply => reply.answer?.isSome

end CreationReplies

namespace TurnReplies

/-- **The calls of a visit.** -/
def visit (p : Pass) (x : ItemStatus) : TurnReplies → List Call
  | stopped | finished => []
  | unread reply => reply.calls (.get p.item.ns x.task)
  | read t => .get p.item.ns x.task :: .getOrOpen t.spanKey ::
      if t.state.isTerminal then [.unbind t.spanKey] else []
  | lost creation => .get p.item.ns x.task :: .lookup (.forTask p.item.ns x.task) ::
      .unbind (.forTask p.item.ns x.task) :: creation.script p x.definition
  | bare creation => creation.script p x.definition

/-- **The state after a turn**, unless it stops the pass. -/
def state? (x : ItemStatus) : TurnReplies → Option TaskState
  | stopped | unread _ => none
  | finished => some x.state
  | read t => some t.state
  | lost creation => if creation.goesOn then some .pending else none
  | bare creation => if creation.goesOn then some x.state else none

/-- **The script of a turn**: the calls of the visit, and the announcement of the state exactly if it
is another than that of the first entry before. -/
def script (p : Pass) (definition : String) (replies : TurnReplies) : List Call :=
  replies.visit p (p.entry definition) ++
    match replies.state? (p.entry definition) with
    | none => []
    | some state =>
      if (findStatus definition (p.item.statuses p.group)).map (·.state) = some state then []
      else [.emit (.about p.item .reconcileTask .normal PhaseEvent.statusChanged
        (Pass.changeMessage definition
          ((findStatus definition (p.item.statuses p.group)).map (·.state)) state) default)]

end TurnReplies

/-- **The replies in a pass**, turn by turn: each of them in the state that the turns before have
left, up to a turn that stops the pass. -/
def Engine.replies {σ τ : Type} (e : Engine σ τ) (p : Pass) :
    List String → World σ τ → List (String × TurnReplies)
  | [], _ => []
  | definition :: rest, w =>
    let replies := (e.backend.turnReplies p (p.entry definition) w.backend).1
    (definition, replies) ::
      match replies.state? (p.entry definition) with
      | none => []
      | some _ => e.replies p rest (e.turn p (p.item.statuses p.group) definition w).2

/-! ## One turn -/

/-- The state that a turn leaves the entry in, unless it stops the pass. -/
def stateAfter : Except Interruption Outcome → Option TaskState
  | .ok o => some o.status.state
  | .error _ => none

namespace Engine

variable {σ τ : Type} {e : Engine σ τ} {p : Pass} {x : ItemStatus} {s s' s₁ : Scene σ τ}
  {result : Except Interruption Outcome}

/-- One action of the backend after the other. -/
theorem bind_backend {α β : Type} (f : StateM σ α) (g : α → StateM σ β) (b : σ) :
    (f >>= g) b = g (f b).1 (f b).2 := rfl

/-- **A question is called out and answered** as the backend replies. -/
theorem exists_reply {α : Type} {c : Call} {f : Act σ (Option α)} {answer : Option α}
    (asked : s.ask e c f = (answer, s₁)) :
    ∃ reply, e.backend.reply f s.backend = (reply, s₁.backend) ∧ reply.answer? = answer ∧
      s₁.calls = s.calls ++ reply.calls c := by
  unfold Scene.ask at asked
  unfold Backend.reply
  rw [bind_backend]
  split at asked
  · next cancelled =>
    obtain ⟨rfl, rfl⟩ := Prod.mk.inj asked
    rw [if_pos (show (e.backend.isCancelled s.backend).1 = true from cancelled)]
    exact ⟨.unasked, rfl, rfl, (List.append_nil _).symm⟩
  · next alive =>
    obtain ⟨rfl, rfl⟩ := Prod.mk.inj asked
    rw [if_neg (show ¬(e.backend.isCancelled s.backend).1 = true from alive), bind_backend]
    refine ⟨_, rfl, Reply.answer?_of _, ?_⟩
    rw [Reply.calls_of]
    rfl

/-- The replies in a creation that comes to putting a task in. -/
theorem exists_stamped {s₂ s₃ : Scene σ τ} {d : TaskDefinition} {draw : Nat}
    {answer : Option (Except StoreError Task)} (resolved : s.resolve e p x = (some (.ok d), s₁))
    (drawn : s₁.sample e.backend.draw = (draw, s₂))
    (put : s₂.put e (p.stamp d draw) = (answer, s₃)) :
    ∃ reply, (e.backend.creationReplies p x.definition s.backend).1 = .resolved d draw reply ∧
      reply.answer? = answer ∧ addressed s₃.calls = addressed s.calls ++
        .resolve x.definition p.item.ns :: reply.calls (.create (p.stamp d draw)) := by
  obtain ⟨reply, answered, answer, calls⟩ := exists_reply resolved
  obtain ⟨reply', answered', answer', calls'⟩ := exists_reply put
  have drawing : s₂.calls = s₁.calls := congrArg (fun r => r.2.calls) drawn.symm
  have draws : e.backend.draw s₁.backend = (draw, s₂.backend) := by
    obtain ⟨rfl, rfl⟩ := Prod.mk.inj drawn
    rfl
  cases reply with
  | unasked | dropped => cases answer
  | given =>
    cases answer
    refine ⟨reply', ?_, answer', ?_⟩
    · unfold Backend.creationReplies
      rw [bind_backend, answered]
      dsimp only
      rw [bind_backend, draws, bind_backend, answered']
      rfl
    · rw [calls', drawing, calls, addressed_append, addressed_append, List.append_assoc]
      cases reply' <;> rfl

/-- **The calls of a creation** are those of its script. -/
theorem Creation.addressed {replies : CreationReplies}
    (creation : Creation e p x s result s')
    (replied : (e.backend.creationReplies p x.definition s.backend).1 = replies) :
    DeployChecks.addressed s'.calls
        = DeployChecks.addressed s.calls ++ replies.script p x.definition ∧
      stateAfter result = if replies.goesOn then some x.state else none := by
  cases creation with
  | unanswered resolved =>
    obtain ⟨reply, answered, answer, calls⟩ := exists_reply resolved
    unfold Backend.creationReplies at replied
    rw [bind_backend, answered] at replied
    rw [calls, addressed_append]
    cases reply with
    | unasked | dropped => exact replied ▸ ⟨rfl, rfl⟩
    | given => cases answer
  | unresolved resolved =>
    obtain ⟨reply, answered, answer, calls⟩ := exists_reply resolved
    unfold Backend.creationReplies at replied
    rw [bind_backend, answered] at replied
    rw [calls, addressed_append]
    cases reply with
    | unasked | dropped => cases answer
    | given =>
      cases answer
      exact replied ▸ ⟨rfl, rfl⟩
  | dropped resolved drawn put =>
    obtain ⟨reply, answered, answer, calls⟩ := exists_stamped resolved drawn put
    obtain rfl := answered.symm.trans replied
    cases reply with
    | unasked | dropped =>
      rw [calls]
      exact ⟨rfl, rfl⟩
    | given => cases answer
  | refused resolved drawn put =>
    obtain ⟨reply, answered, answer, calls⟩ := exists_stamped resolved drawn put
    obtain rfl := answered.symm.trans replied
    cases reply with
    | unasked | dropped => cases answer
    | given =>
      cases answer
      rw [Scene.refused, Scene.calls_announce, addressed_append, calls, List.append_assoc]
      exact ⟨rfl, rfl⟩
  | created resolved drawn put =>
    obtain ⟨reply, answered, answer, calls⟩ := exists_stamped resolved drawn put
    obtain rfl := answered.symm.trans replied
    cases reply with
    | unasked | dropped => cases answer
    | given =>
      cases answer
      rw [Scene.calls_welcome, addressed_append, calls, List.append_assoc]
      exact ⟨rfl, rfl⟩

/-- The calls to the binder about a lost task. -/
theorem addressed_lose (ns task : String) :
    addressed (s.lose e ns task).calls
      = addressed s.calls ++ [.lookup (.forTask ns task), .unbind (.forTask ns task)] := by
  rw [Scene.calls_lose, addressed_append]
  cases (e.observer.lookup (.forTask ns task) s.observer).1.1 <;> rfl

/-- **The calls of a visit** are those of its script. -/
theorem Course.addressed {replies : TurnReplies} (course : Course e p x s result s')
    (replied : (e.backend.visitReplies p x s.backend).1 = replies) :
    DeployChecks.addressed s'.calls = DeployChecks.addressed s.calls ++ replies.visit p x ∧
      stateAfter result = replies.state? x := by
  unfold Backend.visitReplies at replied
  cases course with
  | finished terminal =>
    rw [if_pos terminal] at replied
    exact replied ▸ ⟨(List.append_nil _).symm, rfl⟩
  | unanswered live task fetched =>
    obtain ⟨reply, answered, answer, calls⟩ := exists_reply fetched
    rw [if_neg (by simp [live]), if_pos task, bind_backend, answered] at replied
    rw [calls, addressed_append]
    cases reply with
    | unasked | dropped => exact replied ▸ ⟨rfl, rfl⟩
    | given => cases answer
  | unread live task fetched failure =>
    obtain ⟨reply, answered, answer, calls⟩ := exists_reply fetched
    rw [if_neg (by simp [live]), if_pos task, bind_backend, answered] at replied
    rw [calls, addressed_append]
    cases reply with
    | unasked | dropped => cases answer
    | given =>
      cases answer
      dsimp only at replied
      rw [if_neg (by simp [failure])] at replied
      exact replied ▸ ⟨rfl, rfl⟩
  | @read s₁ t live task fetched =>
    obtain ⟨reply, answered, answer, calls⟩ := exists_reply fetched
    rw [if_neg (by simp [live]), if_pos task, bind_backend, answered] at replied
    cases reply with
    | unasked | dropped => cases answer
    | given =>
      cases answer
      rw [Scene.calls_refresh, ItemStatus.completes_of_live live, calls, addressed_append,
        addressed_append, List.append_assoc]
      obtain rfl : TurnReplies.read t = replies := replied
      refine ⟨?_, congrArg some (Scene.state_refresh t x)⟩
      cases terminal : t.state.isTerminal <;> rw [TurnReplies.visit, terminal] <;> rfl
  | lost live task fetched gone creation =>
    obtain ⟨reply, answered, answer, calls⟩ := exists_reply fetched
    rw [if_neg (by simp [live]), if_pos task, bind_backend, answered] at replied
    cases reply with
    | unasked | dropped => cases answer
    | given =>
      cases answer
      dsimp only at replied
      rw [if_pos gone, bind_backend] at replied
      obtain ⟨created, state⟩ := creation.addressed rfl
      rw [Scene.backend_lose] at created state
      refine replied ▸ ⟨?_, state⟩
      rw [created, addressed_lose, calls, addressed_append, List.append_assoc, List.append_assoc]
      rfl
  | bare live bare creation =>
    rw [if_neg (by simp [live]), if_neg (by simp [bare])] at replied
    obtain ⟨calls, state⟩ := creation.addressed rfl
    exact replied ▸ ⟨calls, state⟩

/-- **The calls of a turn** are those of its script. -/
theorem Turn.addressed {definition : String}
    (turn : Turn e p (p.item.statuses p.group) definition s result s') {replies : TurnReplies}
    (replied : (e.backend.turnReplies p (p.entry definition) s.backend).1 = replies) :
    DeployChecks.addressed s'.calls
        = DeployChecks.addressed s.calls ++ replies.script p definition ∧
      stateAfter result = replies.state? (p.entry definition) := by
  unfold Backend.turnReplies at replied
  rw [bind_backend] at replied
  cases turn with
  | stopped look =>
    rw [backend_look_eq look] at replied
    obtain rfl := congrArg Prod.snd look
    exact replied ▸ ⟨(List.append_nil _).symm, rfl⟩
  | interrupted look course =>
    rw [backend_look_eq look] at replied
    obtain ⟨calls, state⟩ := course.addressed replied
    obtain rfl := congrArg Prod.snd look
    refine ⟨?_, state⟩
    rw [calls, TurnReplies.script, Pass.entry, ← state]
    simp [stateAfter]
  | done look course =>
    rw [backend_look_eq look] at replied
    obtain ⟨calls, state⟩ := course.addressed replied
    obtain rfl := congrArg Prod.snd look
    refine ⟨?_, state⟩
    rw [TurnReplies.script, Pass.entry, ← state, stateAfter, ← List.append_assoc,
      ← Scene.calls_look s e, ← calls, Scene.announceChange]
    dsimp only
    split
    · rw [List.append_nil]
    · rw [Scene.calls_announce, addressed_append]
      rfl

/-! ## A whole pass -/

/-- The replies go on with the turn after, if there is one. -/
theorem replies_of_ok {definition : String} {rest : List String} {w w₁ : World σ τ} {o : Outcome}
    (turn : e.turn p (p.item.statuses p.group) definition w = (.ok o, w₁)) :
    e.replies p (definition :: rest) w
      = (definition, (e.backend.turnReplies p (p.entry definition) w.backend).1) ::
        e.replies p rest w₁ := by
  have state := ((e.turn_turn p _ definition w).addressed rfl).2
  rw [turn, show w.scene.backend = w.backend from rfl] at state
  rw [replies, turn]
  dsimp only
  rw [← state]
  rfl

/-- A turn that stops the pass is the last one with replies. -/
theorem replies_of_error {definition : String} {rest : List String} {w w₁ : World σ τ}
    {i : Interruption}
    (turn : e.turn p (p.item.statuses p.group) definition w = (.error i, w₁)) :
    e.replies p (definition :: rest) w
      = [(definition, (e.backend.turnReplies p (p.entry definition) w.backend).1)] := by
  have state := ((e.turn_turn p _ definition w).addressed rfl).2
  rw [turn, show w.scene.backend = w.backend from rfl] at state
  rw [replies, turn]
  dsimp only
  rw [← state]
  rfl

/-- **The calls of the turns** that are left are those of their scripts. -/
theorem addressed_visitAll (definitions : List String) (r : Reconciliation) (w : World σ τ) :
    addressed (e.visitAll p (p.item.statuses p.group) r definitions w).2.scene.calls
      = addressed w.scene.calls
        ++ (e.replies p definitions w).flatMap fun a => a.2.script p a.1 := by
  induction definitions generalizing r w with
  | nil => simp [visitAll, Run.map_apply, replies]
  | cons definition rest ih =>
    have calls := ((e.turn_turn p _ definition w).addressed rfl).1
    rw [visitAll_cons]
    cases turn : e.turn p (p.item.statuses p.group) definition w with
    | mk result w₁ =>
      rw [turn] at calls
      cases result with
      | ok o =>
        rw [replies_of_ok turn, List.flatMap_cons, ← List.append_assoc]
        dsimp only
        rw [ih, calls]
        rfl
      | error i =>
        rw [replies_of_error turn, List.flatMap_singleton]
        simp only [Run.map_apply, scene_interrupted]
        exact calls

/-- **The turns with replies** are those of the first names. -/
theorem names_replies (definitions : List String) (w : World σ τ) :
    (e.replies p definitions w).map (·.1) <+: definitions := by
  induction definitions generalizing w with
  | nil => exact List.prefix_refl _
  | cons definition rest ih =>
    cases turn : e.turn p (p.item.statuses p.group) definition w with
    | mk result w₁ =>
      cases result with
      | ok o => simpa [replies_of_ok turn] using ih w₁
      | error i => simp [replies_of_error turn]

/-- **The entries that a pass hands over** have the states after the turns that go on; the others
are those from before the pass. -/
theorem states_visitAll (definitions : List String) (r : Reconciliation) (w : World σ τ) :
    let states := (e.replies p definitions w).filterMap fun a => a.2.state? (p.entry a.1)
    (keptStatuses (e.visitAll p (p.item.statuses p.group) r definitions w).1).map (·.state)
        = r.statuses.map (·.state) ++ states
          ++ ((definitions.drop states.length).map p.entry).map (·.state) ∧
      ((∃ a, (e.visitAll p (p.item.statuses p.group) r definitions w).1 = .ok a) ↔
        states.length = definitions.length) := by
  induction definitions generalizing r w with
  | nil => simp [visitAll, Run.map_apply, replies, keptStatuses, Reconciliation.summarized]
  | cons definition rest ih =>
    have state := ((e.turn_turn p _ definition w).addressed rfl).2
    rw [show w.scene.backend = w.backend from rfl] at state
    rw [visitAll_cons]
    cases turn : e.turn p (p.item.statuses p.group) definition w with
    | mk result w₁ =>
      rw [turn] at state
      cases result with
      | ok o =>
        obtain ⟨kept, complete⟩ := ih (r.record o) w₁
        rw [replies_of_ok turn, List.filterMap_cons, ← state, stateAfter]
        dsimp only
        rw [kept, complete, Reconciliation.statuses_record]
        simp
      | error i =>
        rw [replies_of_error turn, List.filterMap_cons, ← state, stateAfter]
        simp [Run.map_apply, interrupted_fst, keptStatuses, Pass.entry]

/-- Every turn but the last one goes on. -/
theorem goesOn_of_mem_dropLast (definitions : List String) (w : World σ τ) :
    ∀ a ∈ (e.replies p definitions w).dropLast, (a.2.state? (p.entry a.1)).isSome = true := by
  induction definitions generalizing w with
  | nil => exact fun a mem => absurd mem List.not_mem_nil
  | cons definition rest ih =>
    have state := ((e.turn_turn p _ definition w).addressed rfl).2
    rw [show w.scene.backend = w.backend from rfl] at state
    cases turn : e.turn p (p.item.statuses p.group) definition w with
    | mk result w₁ =>
      rw [turn] at state
      cases result with
      | ok o =>
        rw [replies_of_ok turn]
        intro a mem
        cases more : e.replies p rest w₁ with
        | nil =>
          rw [more] at mem
          exact absurd mem List.not_mem_nil
        | cons b bs =>
          rw [more, List.dropLast_cons_cons, List.mem_cons] at mem
          obtain rfl | mem := mem
          · rw [← state]
            rfl
          · exact ih w₁ a (more ▸ mem)
      | error i =>
        rw [replies_of_error turn]
        exact fun a mem => absurd mem List.not_mem_nil

end Engine

/-- **The calls of a pass follow its script.**  Whatever the collaborators answer, the calls of a
pass to the store, the resolver, the binder and the sink are the scripts of its turns, one after the
other, and no others.  The turns go through the declared names in order, each with what the backend
replies when its turn comes, up to the first one that stops the pass, if any does.  The states that
the scripts announce are those that the pass hands over, with the entries that it did not get to as
they were. -/
theorem calls_follow_script {σ τ : Type} (e : Engine σ τ) (p : Pass) (w : World σ τ) :
    let declared := p.item.declared p.group
    let replies := e.replies p declared w
    let states := replies.filterMap fun a => a.2.state? (p.entry a.1)
    addressed (e.callsIn p w) = replies.flatMap (fun a => a.2.script p a.1) ∧
      replies.map (·.1) <+: declared ∧
      (∀ a ∈ replies.dropLast, (a.2.state? (p.entry a.1)).isSome = true) ∧
      ((∃ r, (e.reconcile p w).1 = .ok r) ↔ states.length = declared.length) ∧
      (keptStatuses (e.reconcile p w).1).map (·.state)
        = states ++ ((declared.drop states.length).map p.entry).map (·.state) := by
  obtain ⟨kept, complete⟩ :=
    Engine.states_visitAll (e := e) (p := p) (p.item.declared p.group) .empty w
  refine ⟨?_, Engine.names_replies _ w, Engine.goesOn_of_mem_dropLast _ w, complete, ?_⟩
  · have calls :=
      Engine.addressed_visitAll (e := e) (p := p) (p.item.declared p.group) .empty w
    rw [Engine.calls_visitAll, addressed_append, List.append_cancel_left_eq] at calls
    rw [Engine.callsIn_eq, calls]
  · exact kept

/-- A task that ran is lost: its span is given up, it is created anew, and the loss is announced. -/
example :
    let entry : ItemStatus := ⟨"smoke", "pre-smoke-1", .running, none, none⟩
    let p : Pass := ⟨.empty, (Sample.item ["smoke"]).setStatuses .pre [entry], .pre⟩
    let e := Engine.lavish fun ns name => .error (.notFound ns name)
    let t := p.stamp (Sample.definition "smoke") 0
    addressed (e.callsIn p ⟨(), (), []⟩)
      = [.get "prod" "pre-smoke-1", .lookup (.forTask "prod" "pre-smoke-1"),
        .unbind (.forTask "prod" "pre-smoke-1"), .resolve "smoke" "prod", .create t,
        .openSpan t.spanKey, .emit (.about p.item .reconcileTask .normal PhaseEvent.statusChanged
          (Pass.changeMessage "smoke" (some .running) .pending) default)] := by
  cbv

end DeployChecks
