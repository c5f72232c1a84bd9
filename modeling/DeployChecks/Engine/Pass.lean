import DeployChecks.Engine.World
import DeployChecks.Reconciliation
import DeployChecks.Task.Stamp

/-!
# Engine/Pass — one pass over the checks of a group

The declared names are visited in order, one at a time.  An entry that is finished is left alone; a
task that exists is read back; where there is none, or it was lost, one is created.  A failure to
read a task and a cancellation stop the pass; everything else concerns one definition only.  Main
definitions: `Engine.visit` for one definition and `Engine.reconcile` for all.
-/

namespace DeployChecks

open Trace (Context SpanStatus)

/-- **What a pass is about.** -/
structure Pass where
  /-- The context in which the spans of the tasks start. -/
  context : Context
  /-- The item that declares the checks. -/
  item : PhaseItem
  /-- The group of checks. -/
  group : CheckGroup

/-- **Why a visit stops the pass.** -/
inductive Interruption where
  /-- The task could not be read. -/
  | fetch (task : String) (source : StoreError)
  /-- The token was cancelled. -/
  | cancelled
  deriving DecidableEq, Repr

/-- **Why a pass stopped.**  The entries that can be stored come with it. -/
inductive PassError where
  /-- The task of a definition could not be read. -/
  | fetch (definition task : String) (source : StoreError) (statuses : List ItemStatus)
  /-- The token was cancelled at a definition. -/
  | cancelled (definition : String) (statuses : List ItemStatus)
  deriving DecidableEq

namespace PassError

/-- The wording of an error. -/
def message : PassError → String
  | fetch definition task source _ =>
    s!"failed to fetch task {task} for definition {definition}: {source.message}"
  | cancelled definition _ => s!"reconciliation cancelled before definition {definition}"

/-- The error of the store behind it. -/
def source? : PassError → Option StoreError
  | fetch _ _ source _ => some source
  | cancelled _ _ => none

/-- The pass was cancelled. -/
def isCancelled : PassError → Bool
  | fetch _ _ _ _ => false
  | cancelled _ _ => true

/-- **The entries that can be stored**: those of the visited definitions as the pass left them, the
others as they were. -/
def partialStatuses : PassError → List ItemStatus
  | fetch _ _ _ statuses | cancelled _ statuses => statuses

end PassError

/-! ## Wordings -/

namespace Pass

/-- The message of a change of state. -/
def changeMessage (definition : String) (previous : Option TaskState) (current : TaskState) :
    String :=
  match previous with
  | some previous => s!"task {definition} status changed from {previous.name} to {current.name}"
  | none => s!"task {definition} status set to {current.name}"

/-- The message of a failed creation. -/
def createFailedMessage (definition : String) : String :=
  s!"could not create task for definition {definition}"

/-- What happened to the span of a finished task, and its status. -/
def closing (t : Task) : List Trace.SpanEvent × SpanStatus :=
  if t.state.isSucceeded then ([⟨s!"{t.name} has finished", []⟩], .ok)
  else
    ([⟨s!"{t.name} has failed", []⟩,
        ⟨s!"task '{t.name}' failed with reason: '{t.status.message}'",
          [("reason", t.status.message)]⟩],
      .error "Failed")

/-- What happened to the span of a lost task. -/
def vanishing (task : String) : Trace.SpanEvent := ⟨s!"{task} has vanished", []⟩

end Pass

namespace Engine

variable {σ τ : Type}

/-! ## Announcing -/

/-- Announce an event; that it is not delivered is only noted. -/
def emit (e : Engine σ τ) (event : PhaseEvent) : Run σ τ Unit := do
  match ← Run.watch (.emit event) (e.observer.emit event) with
  | .ok _ => pure ()
  | .error err =>
    Run.note <| Log.error "Could not emit event"
      [("event", .shown event.name), ("error", .shown err.message)]

/-- Announce something about the item of a pass, now. -/
def announce (e : Engine σ τ) (p : Pass) (phase : Phase) (severity : Severity)
    (reason message : String) : Run σ τ Unit := do
  let now ← Run.sample e.backend.now
  e.emit (.about p.item phase severity reason message now)

/-- Announce the state of a definition, if it is another than before. -/
def announceChange (e : Engine σ τ) (p : Pass) (definition : String)
    (previous : Option TaskState) (current : TaskState) : Run σ τ Unit :=
  if previous = some current then pure ()
  else e.announce p .reconcileTask .normal PhaseEvent.statusChanged
    (Pass.changeMessage definition previous current)

/-! ## Spans -/

/-- Give up the span of a task; that this fails is only noted. -/
def unbindSpan (e : Engine σ τ) (key : SpanKey) (task : String) : Run σ τ Unit := do
  match ← Run.watch (.unbind key) (e.observer.unbind key) with
  | .ok _ => pure ()
  | .error err =>
    Run.note <| Log.error "Could not unbind span"
      [("task", .shown task), ("error", .shown err.message)]

/-- The span of a task that was read back, opened if there is none. -/
def taskSpan (e : Engine σ τ) (p : Pass) (t : Task) : Run σ τ Context := do
  match ← Run.watch (.getOrOpen t.spanKey)
    (e.observer.getOrOpen t.spanKey p.context t.spanAttributes) with
  | .ok context => pure context
  | .error err =>
    Run.note <| Log.error "Could not get span"
      [("task", .shown t.name), ("error", .shown err.message)]
    pure .empty

/-- Things happened in the span of a context. -/
def addEvents (e : Engine σ τ) (context : Context) : List Trace.SpanEvent → Run σ τ Unit
  | [] => pure ()
  | event :: rest => do
    Run.mark (e.observer.addEvent context event)
    e.addEvents context rest

/-- Close the span of a key: what happened, how it ended, and the end. -/
def closeSpan (e : Engine σ τ) (key : SpanKey) (context : Context)
    (events : List Trace.SpanEvent) (status : SpanStatus) : Run σ τ Unit := do
  Run.write (.call (.close key events status))
  e.addEvents context events
  Run.mark (e.observer.setStatus context status)
  Run.mark (e.observer.finish context)

/-- **Close the span of a lost task**, and give it up. -/
def closeVanished (e : Engine σ τ) (ns task : String) : Run σ τ Unit := do
  let key := SpanKey.forTask ns task
  match ← Run.watch (.lookup key) (e.observer.lookup key) with
  | some context => e.closeSpan key context [Pass.vanishing task] (.error "Vanished")
  | none => pure ()
  e.unbindSpan key task

/-! ## One definition -/

/-- **A task that was read back.**  At the first terminal observation its span is closed. -/
def refresh (e : Engine σ τ) (p : Pass) (t : Task) (status : ItemStatus) : Run σ τ Outcome := do
  let context ← e.taskSpan p t
  let seen := { status with state := t.state }
  if t.state.completes (some status.state) then
    let (events, spanStatus) := Pass.closing t
    e.closeSpan t.spanKey context events spanStatus
    e.unbindSpan t.spanKey t.name
    let now ← Run.sample e.backend.now
    e.noteOperation
      { operation := "complete"
        definition := status.definition
        task := some t.name
        ns := t.ns
        status := t.state.name
        details := if t.status.message.isEmpty then none else some t.status.message }
    return .refreshed (seen.ended now) true
  else return .refreshed seen false

/-- **A task that was created.**  Its span is opened. -/
def welcome (e : Engine σ τ) (p : Pass) (t : Task) (status : ItemStatus) : Run σ τ Outcome := do
  let now ← Run.sample e.backend.now
  let status := { status with task := t.name }.started now
  match ← Run.watch (.openSpan t.spanKey)
    (e.observer.openSpan t.spanKey p.context t.spanAttributes) with
  | .ok _ => pure ()
  | .error err =>
    Run.note <| Log.error "Could not open span"
      [("task", .shown t.name), ("error", .shown err.message)]
  e.noteOperation
    { operation := "create"
      definition := status.definition
      task := some t.name
      ns := p.item.ns
      status := status.state.name
      details := none }
  return .created status

/-- **A task that could not be created.** -/
def createFailed (e : Engine σ τ) (p : Pass) (task : String) (err : StoreError)
    (status : ItemStatus) : Run σ τ Outcome := do
  Run.note <| Log.error "Could not create task"
    [("definition", .shown status.definition), ("task", .shown task),
      ("namespace", .shown p.item.ns), ("error", .shown err.message)]
  e.announce p .createTask .warning PhaseEvent.failed (Pass.createFailedMessage status.definition)
  return .skipped status (.creationFailed err.message)

/-- **A definition that could not be resolved.** -/
def unresolved (p : Pass) (err : ResolveError) (status : ItemStatus) : Run σ τ Outcome := do
  if err.isNotFound then
    Run.note <| Log.info "TaskDefinition for Task not found"
      [("definition", .shown status.definition), ("namespace", .shown p.item.ns)]
    return .skipped status .definitionNotFound
  else
    Run.note <| Log.error "Could not resolve task definition"
      [("definition", .shown status.definition), ("namespace", .shown p.item.ns),
        ("error", .shown err.message)]
    return .skipped status (.definitionLookupFailed err.message)

/-- **Create the task of a definition.** -/
def create (e : Engine σ τ) (p : Pass) (status : ItemStatus) :
    Run σ τ (Except Interruption Outcome) := do
  match ← e.guarded (.resolve status.definition p.item.ns)
    (e.backend.resolve status.definition p.item.ns) with
  | none => return .error .cancelled
  | some (.error err) => return .ok (← unresolved p err status)
  | some (.ok definition) =>
    let draw ← Run.sample e.backend.draw
    let task := definition.stamp p.group p.item p.context.inject draw
    match ← e.guarded (.create task) (e.backend.create task) with
    | none => return .error .cancelled
    | some (.error err) => return .ok (← e.createFailed p task.name err status)
    | some (.ok created) => return .ok (← e.welcome p created status)

/-- **Replace a lost task.** -/
def replace (e : Engine σ τ) (p : Pass) (status : ItemStatus) :
    Run σ τ (Except Interruption Outcome) := do
  Run.note <| Log.info "Task vanished, creating a replacement"
    [("definition", .shown status.definition), ("task", .shown status.task),
      ("namespace", .shown p.item.ns)]
  e.closeVanished p.item.ns status.task
  e.create p status.withoutTask

/-- **One definition**, whose entry is given. -/
def visit (e : Engine σ τ) (p : Pass) (status : ItemStatus) :
    Run σ τ (Except Interruption Outcome) := do
  if status.isTerminal then return .ok (.unchanged status)
  if status.hasTask then
    match ← e.guarded (.get p.item.ns status.task) (e.backend.get p.item.ns status.task) with
    | none => return .error .cancelled
    | some (.ok task) => return .ok (← e.refresh p task status)
    | some (.error err) =>
      if err.isNotFound then e.replace p status
      else return .error (.fetch status.task err)
  else e.create p status

/-- One definition, unless the token is cancelled. -/
def visitUnlessCancelled (e : Engine σ τ) (p : Pass) (status : ItemStatus) :
    Run σ τ (Except Interruption Outcome) := do
  if ← e.isCancelled then return .error .cancelled
  else e.visit p status

/-! ## All definitions -/

/-- **A pass that stops** at a definition, with the entries that can be stored. -/
def interrupted (p : Pass) (definition : String) (i : Interruption)
    (statuses : List ItemStatus) : Run σ τ PassError := do
  match i with
  | .fetch task source =>
    Run.note <| Log.error "Could not fetch task, aborting pass"
      [("definition", .shown definition), ("task", .shown task),
        ("namespace", .shown p.item.ns), ("error", .shown source.message)]
    return .fetch definition task source statuses
  | .cancelled =>
    Run.note <| Log.info "Reconciliation cancelled" [("definition", .shown definition)]
    return .cancelled definition statuses

/-- The record of a pass that came to its end. -/
def finishedNote (r : Reconciliation) : Log.Record :=
  Log.debug "Task reconciliation pass finished"
    [("total", .count r.summary.total), ("succeeded", .count r.summary.succeeded),
      ("failed", .count r.summary.failed), ("created", .count r.created.length),
      ("skipped", .count r.skipped.length)]

/-- **The definitions that are left**, after the result so far. -/
def visitAll (e : Engine σ τ) (p : Pass) (prior : List ItemStatus) (r : Reconciliation) :
    List String → Run σ τ (Except PassError Reconciliation)
  | [] => do
    let r := r.summarized
    Run.note (finishedNote r)
    return .ok r
  | definition :: rest => do
    match ← e.visitUnlessCancelled p (statusOrFresh definition prior) with
    | .ok outcome =>
      e.announceChange p definition ((findStatus definition prior).map (·.state))
        outcome.status.state
      e.visitAll p prior (r.record outcome) rest
    | .error i =>
      let untouched := (definition :: rest).map (statusOrFresh · prior)
      return .error (← interrupted p definition i (r.statuses ++ untouched))

/-- **One pass** over the checks that an item declares for a group. -/
def reconcile (e : Engine σ τ) (p : Pass) : Run σ τ (Except PassError Reconciliation) :=
  e.visitAll p (p.item.statuses p.group) .empty (p.item.declared p.group)

end Engine

end DeployChecks
