import DeployChecks.PhaseItem

/-!
# PhaseEvent — what is announced about a phase item

Main definitions: `PhaseEvent` with its name and its summary, `PhaseEvent.about`.
-/

namespace DeployChecks

/-- **The activity that an event comes from.** -/
inductive Phase where
  /-- Bringing tasks up to date. -/
  | reconcileTask
  /-- Creating a task. -/
  | createTask
  deriving DecidableEq, Repr

namespace Phase

/-- The name in one word. -/
def shortName : Phase → String
  | reconcileTask => "ReconcileTask"
  | createTask => "CreateTask"

/-- The name for readers. -/
def longName : Phase → String
  | reconcileTask => "Reconcile Task"
  | createTask => "Create Task"

instance : Json.Codec Phase where
  encode p := .string p.shortName
  decode := Json.Decoder.choice ([reconcileTask, createTask].map fun p => (p.shortName, p))

end Phase

/-- **How serious an event is.** -/
inductive Severity where
  /-- All is well. -/
  | normal
  /-- Something went wrong. -/
  | warning
  deriving DecidableEq, Repr

namespace Severity

/-- The name. -/
def name : Severity → String
  | normal => "Normal"
  | warning => "Warning"

instance : Json.Codec Severity where
  encode s := .string s.name
  decode := Json.Decoder.choice ([normal, warning].map fun s => (s.name, s))

end Severity

/-- **The phase item that an event is about.** -/
structure EventSubject where
  /-- The kind of the item. -/
  kind : String
  /-- The namespace of the item. -/
  ns : String
  /-- The name of the item. -/
  name : String
  deriving DecidableEq, Repr

namespace EventSubject

/-- The fields of the JSON form. -/
def fields : Json.Fields EventSubject :=
  EventSubject.mk <$> .required "kind" .text <*> .required "namespace" .text
    <*> .required "name" .text

instance : Json.Codec EventSubject where
  encode s := .object
    [("kind", .string s.kind), ("namespace", .string s.ns), ("name", .string s.name)]
  decode := fields.decoder

end EventSubject

/-- An item as the subject of an event. -/
def PhaseItem.subject (item : PhaseItem) : EventSubject := ⟨item.kind, item.ns, item.name⟩

/-- **An event.** -/
structure PhaseEvent where
  /-- The activity that it comes from. -/
  phase : Phase
  /-- How serious it is. -/
  severity : Severity
  /-- What it is about. -/
  subject : EventSubject
  /-- The reason in one word. -/
  reason : String
  /-- The message for readers. -/
  message : String
  /-- The version of the subject. -/
  version : String
  /-- When it was announced. -/
  emittedAt : Timestamp
  deriving DecidableEq

namespace PhaseEvent

/-- **An event about an item**, announced now. -/
def about (item : PhaseItem) (phase : Phase) (severity : Severity) (reason message : String)
    (now : Timestamp) : PhaseEvent :=
  ⟨phase, severity, item.subject, reason, message, item.version, now⟩

/-- The reason of a change of state. -/
def statusChanged : String := "StatusChanged"

/-- The reason of a failure. -/
def failed : String := "Failed"

/-- **The name of an event**: activity and reason in one word. -/
def name (e : PhaseEvent) : String := e.phase.shortName ++ e.reason

/-- **An event in one line.** -/
def summary (e : PhaseEvent) : String :=
  s!"{e.phase.longName}: {e.message} / Namespace: {e.subject.ns}, Name: {e.subject.name}, " ++
    s!"Version: {e.version}"

/-- The fields of the JSON form. -/
def fields : Json.Fields PhaseEvent :=
  PhaseEvent.mk <$> .required "phase" Json.Codec.decode <*> .required "severity" Json.Codec.decode
    <*> .required "subject" Json.Codec.decode <*> .required "reason" .text
    <*> .required "message" .text <*> .required "version" .text
    <*> .required "emittedAt" Json.Codec.decode

instance : Json.Codec PhaseEvent where
  encode e := .object
    [("phase", Json.Codec.encode e.phase), ("severity", Json.Codec.encode e.severity),
      ("subject", Json.Codec.encode e.subject), ("reason", .string e.reason),
      ("message", .string e.message), ("version", .string e.version),
      ("emittedAt", Json.Codec.encode e.emittedAt)]
  decode := fields.decoder

end PhaseEvent

end DeployChecks
