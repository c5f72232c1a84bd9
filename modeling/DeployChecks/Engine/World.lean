import DeployChecks.DefinitionRegistry
import DeployChecks.EventSink
import DeployChecks.Log.TaskOperation
import DeployChecks.SpanRegistry
import DeployChecks.TaskStore

/-!
# Engine/World — what a pass deals with

A pass acts on two worlds.  The **backend** decides: it holds the tasks and the definitions, the
clock, the random numbers and the token that cancels.  The **observer** only watches: spans and
events.  Each has a state of its own, and nothing that the observer answers reaches the backend.
What a pass asks of either is written to a **journal**, in order, together with the log.  Main
definitions: `Backend`, `Observer`, `Call`, `World`, `Run`.
-/

namespace DeployChecks

open Trace (Context SpanEvent SpanStatus)

/-- **An action on a state** that may write to the log. -/
abbrev Act (σ α : Type) := StateM σ (α × List Log.Record)

/-- An action that writes nothing to the log. -/
def Act.silent {σ α : Type} (x : StateM σ α) : Act σ α := fun s =>
  let (a, s) := x s
  ((a, []), s)

/-- **What decides the course of a pass.**  A call that is still under way when the token is
cancelled has no answer. -/
structure Backend (σ : Type) where
  /-- Look whether the token is cancelled. -/
  isCancelled : StateM σ Bool
  /-- Ask for the task of a namespace and a name. -/
  get : String → String → Act σ (Option (Except StoreError Task))
  /-- Create a task; the answer is the task as it is stored. -/
  create : Task → Act σ (Option (Except StoreError Task))
  /-- Resolve a name in a namespace. -/
  resolve : String → String → Act σ (Option (Except ResolveError TaskDefinition))
  /-- The time. -/
  now : StateM σ Timestamp
  /-- A random number. -/
  draw : StateM σ Nat

/-- **What watches a pass.** -/
structure Observer (τ : Type) where
  /-- Open a span for a key in a context. -/
  openSpan : SpanKey → Context → List Trace.Attribute → Act τ (Except SpanBindingError Context)
  /-- The span of a key, opened if there is none. -/
  getOrOpen : SpanKey → Context → List Trace.Attribute → Act τ (Except SpanBindingError Context)
  /-- The span of a key. -/
  lookup : SpanKey → Act τ (Option Context)
  /-- Give up the span of a key. -/
  unbind : SpanKey → Act τ (Except SpanBindingError Unit)
  /-- Something happened in the span of a context. -/
  addEvent : Context → SpanEvent → StateM τ Unit
  /-- Set the status of the span of a context. -/
  setStatus : Context → SpanStatus → StateM τ Unit
  /-- End the span of a context. -/
  finish : Context → StateM τ Unit
  /-- Announce an event. -/
  emit : PhaseEvent → Act τ (Except EventError Unit)

/-- **An engine**: a backend and an observer. -/
structure Engine (σ τ : Type) where
  /-- What decides. -/
  backend : Backend σ
  /-- What watches. -/
  observer : Observer τ

/-! ## The journal -/

/-- **What a pass asks for.** -/
inductive Call where
  /-- A task of the backend. -/
  | get (ns name : String)
  /-- A new task in the backend. -/
  | create (task : Task)
  /-- A definition of the backend. -/
  | resolve (name ns : String)
  /-- A new span. -/
  | openSpan (key : SpanKey)
  /-- A span, new if there is none. -/
  | getOrOpen (key : SpanKey)
  /-- A span, if there is one. -/
  | lookup (key : SpanKey)
  /-- A span to be closed, with what happened and how it ended. -/
  | close (key : SpanKey) (events : List SpanEvent) (status : SpanStatus)
  /-- A span to be given up. -/
  | unbind (key : SpanKey)
  /-- An event to be announced. -/
  | emit (event : PhaseEvent)

/-- The call goes to the backend. -/
def Call.isDeciding : Call → Bool
  | get _ _ | create _ | resolve _ _ => true
  | openSpan _ | getOrOpen _ | lookup _ | close _ _ _ | unbind _ | emit _ => false

/-- **An entry of the journal.** -/
inductive Entry where
  /-- A call. -/
  | call (c : Call)
  /-- A record of the log. -/
  | note (r : Log.Record)

namespace Entry

/-- The call of an entry. -/
def call? : Entry → Option Call
  | call c => some c
  | note _ => none

/-- The record of an entry. -/
def note? : Entry → Option Log.Record
  | call _ => none
  | note r => some r

/-- The event that an entry announces. -/
def event? : Entry → Option PhaseEvent
  | call (.emit event) => some event
  | _ => none

end Entry

/-- **Both worlds and the journal.** -/
structure World (σ τ : Type) where
  /-- The state of what decides. -/
  backend : σ
  /-- The state of what watches. -/
  observer : τ
  /-- What was asked for and what was logged, in order. -/
  journal : List Entry

/-- **An action on both worlds.** -/
abbrev Run (σ τ : Type) := StateM (World σ τ)

namespace Run

variable {σ τ α : Type}

/-- Write an entry to the journal. -/
def write (e : Entry) : Run σ τ Unit := fun w => ((), { w with journal := w.journal ++ [e] })

/-- Write a record to the log. -/
def note (r : Log.Record) : Run σ τ Unit := write (.note r)

/-- A call to the backend. -/
def decide (c : Call) (x : Act σ α) : Run σ τ α := fun w =>
  let r := x w.backend
  (r.1.1,
    { w with backend := r.2, journal := w.journal ++ .call c :: r.1.2.map .note })

/-- A call to the observer. -/
def watch (c : Call) (x : Act τ α) : Run σ τ α := fun w =>
  let r := x w.observer
  (r.1.1,
    { w with observer := r.2, journal := w.journal ++ .call c :: r.1.2.map .note })

/-- Something of the backend that is no call. -/
def sample (x : StateM σ α) : Run σ τ α := fun w =>
  let r := x w.backend
  (r.1, { w with backend := r.2 })

/-- Something of the observer that is no call. -/
def mark (x : StateM τ Unit) : Run σ τ Unit := fun w =>
  ((), { w with observer := (x w.observer).2 })

end Run

namespace Engine

variable {σ τ α : Type}

/-- Look whether the token is cancelled. -/
def isCancelled (e : Engine σ τ) : Run σ τ Bool := Run.sample e.backend.isCancelled

/-- **A call that the token cancels**: once it is cancelled the call is not even made. -/
def guarded (e : Engine σ τ) (c : Call) (x : Act σ (Option α)) : Run σ τ (Option α) := do
  if ← e.isCancelled then return none
  else Run.decide c x

/-- Write the record of an operation to the log. -/
def noteOperation (e : Engine σ τ) (o : Log.TaskOperation) : Run σ τ Unit := do
  let now ← Run.sample e.backend.now
  Run.note (o.record now)

end Engine

end DeployChecks
