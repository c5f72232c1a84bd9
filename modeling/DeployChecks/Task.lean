import DeployChecks.CheckGroup
import DeployChecks.ItemStatus
import DeployChecks.TaskDefinition

/-!
# Task — the resource that is run

A task is owned by the phase item that declared it; its name and namespace never change.  Main
definitions: `Task` with its parts, and `Task.key`.
-/

namespace DeployChecks

/-- **The owner of a task.** -/
structure OwnerReference where
  /-- The kind of the owner. -/
  kind : String
  /-- The name of the owner. -/
  name : String
  /-- The unique identity of the owner. -/
  uid : String
  /-- The owner controls the task. -/
  controller : Bool
  deriving DecidableEq, Repr

/-- **What a task knows about the deployment.** -/
structure TaskContext where
  /-- The application. -/
  appName : String
  /-- The version of the application, empty for a workload. -/
  appVersion : String
  /-- The workload, empty for an application. -/
  workloadName : String
  /-- The version of the workload, empty for an application. -/
  workloadVersion : String
  /-- The tag of the check group. -/
  taskType : String
  /-- What is deployed. -/
  objectType : String
  /-- Named values passed through, trace headers among them. -/
  metadata : StringMap String
  deriving DecidableEq

/-- **What a task asks for.** -/
structure TaskSpec where
  /-- The name of the definition. -/
  definition : String
  /-- The check group. -/
  checkType : CheckGroup
  /-- What it knows about the deployment. -/
  context : TaskContext
  /-- What to run. -/
  runtime : Json
  /-- Named arguments. -/
  parameters : StringMap String
  /-- The name of the secret with further arguments. -/
  secureParameters : Option String
  /-- How often to try again. -/
  retries : UInt32
  /-- How long a try may take. -/
  timeoutSeconds : UInt64

/-- **What whoever runs the task reports.** -/
structure TaskStatus where
  /-- The state. -/
  state : TaskState
  /-- A message with it. -/
  message : String
  /-- When the task was first seen started. -/
  startTime : Option Timestamp
  /-- When the task was first seen finished. -/
  endTime : Option Timestamp
  deriving DecidableEq

/-- **A task.** -/
structure Task where
  /-- The name. -/
  name : String
  /-- The namespace. -/
  ns : String
  /-- The owner. -/
  owner : OwnerReference
  /-- What it asks for. -/
  spec : TaskSpec
  /-- What is reported about it. -/
  status : TaskStatus

/-- **Where a task is found.** -/
structure TaskKey where
  /-- The namespace. -/
  ns : String
  /-- The name. -/
  name : String
  deriving DecidableEq, Repr

namespace OwnerReference

/-- The fields of the JSON form. -/
def fields : Json.Fields OwnerReference :=
  OwnerReference.mk <$> .required "kind" .text <*> .required "name" .text
    <*> .required "uid" .text <*> .required "controller" .bool

instance : Json.Codec OwnerReference where
  encode o := .object
    [("kind", .string o.kind), ("name", .string o.name), ("uid", .string o.uid),
      ("controller", .bool o.controller)]
  decode := fields.decoder

end OwnerReference

namespace TaskContext

/-- The context that knows nothing. -/
def empty : TaskContext := ⟨"", "", "", "", "", "", {}⟩

instance : Inhabited TaskContext := ⟨empty⟩

/-- The fields of the JSON form. -/
def fields : Json.Fields TaskContext :=
  TaskContext.mk <$> .required "appName" .text <*> .required "appVersion" .text
    <*> .defaulted "workloadName" .text "" <*> .defaulted "workloadVersion" .text ""
    <*> .required "taskType" .text <*> .required "objectType" .text
    <*> .defaulted "metadata" (.stringMap .text) {}

instance : Json.Codec TaskContext where
  encode c := .object
    [("appName", .string c.appName), ("appVersion", .string c.appVersion),
      ("workloadName", .string c.workloadName), ("workloadVersion", .string c.workloadVersion),
      ("taskType", .string c.taskType), ("objectType", .string c.objectType),
      ("metadata", .stringMap c.metadata)]
  decode := fields.decoder

end TaskContext

namespace TaskSpec

/-- The fields of the JSON form. -/
def fields : Json.Fields TaskSpec :=
  TaskSpec.mk <$> .required "taskDefinition" .text <*> .required "checkType" Json.Codec.decode
    <*> .required "context" Json.Codec.decode <*> .defaulted "runtime" .json .null
    <*> .defaulted "parameters" (.stringMap .text) {} <*> .optional "secureParameters" .text
    <*> .required "retries" .word32 <*> .required "timeoutSeconds" .word64

instance : Json.Codec TaskSpec where
  encode s := .object <|
    [("taskDefinition", .string s.definition), ("checkType", Json.Codec.encode s.checkType),
      ("context", Json.Codec.encode s.context), ("runtime", s.runtime),
      ("parameters", .stringMap s.parameters)]
      ++ Json.optionalMember "secureParameters" (s.secureParameters.map .string)
      ++ [("retries", .nat s.retries.toNat), ("timeoutSeconds", .nat s.timeoutSeconds.toNat)]
  decode := fields.decoder

end TaskSpec

namespace TaskStatus

/-- The status of a task that nothing is known about. -/
def fresh : TaskStatus := ⟨.pending, "", none, none⟩

instance : Inhabited TaskStatus := ⟨fresh⟩

/-- **A report**: the first state other than pending sets the start, the first terminal one the
end. -/
def report (s : TaskStatus) (state : TaskState) (message : String) (now : Timestamp) :
    TaskStatus where
  state := state
  message := message
  startTime := if state ≠ .pending then s.startTime.or (some now) else s.startTime
  endTime := if state.isTerminal then s.endTime.or (some now) else s.endTime

/-- The fields of the JSON form. -/
def fields : Json.Fields TaskStatus :=
  TaskStatus.mk <$> .required "status" Json.Codec.decode <*> .defaulted "message" .text ""
    <*> .optional "startTime" Json.Codec.decode <*> .optional "endTime" Json.Codec.decode

instance : Json.Codec TaskStatus where
  encode s := .object <|
    [("status", Json.Codec.encode s.state), ("message", .string s.message)]
      ++ Json.optionalMember "startTime" (s.startTime.map Json.Codec.encode)
      ++ Json.optionalMember "endTime" (s.endTime.map Json.Codec.encode)
  decode := fields.decoder

end TaskStatus

namespace Task

/-- The state of a task. -/
def state (t : Task) : TaskState := t.status.state

/-- The key of a task. -/
def key (t : Task) : TaskKey := ⟨t.ns, t.name⟩

/-- The fields of the JSON form. -/
def fields : Json.Fields Task :=
  Task.mk <$> .required "name" .text <*> .required "namespace" .text
    <*> .required "owner" Json.Codec.decode <*> .required "spec" Json.Codec.decode
    <*> .defaulted "status" Json.Codec.decode .fresh

instance : Json.Codec Task where
  encode t := .object
    [("name", .string t.name), ("namespace", .string t.ns), ("owner", Json.Codec.encode t.owner),
      ("spec", Json.Codec.encode t.spec), ("status", Json.Codec.encode t.status)]
  decode := fields.decoder

end Task

end DeployChecks
