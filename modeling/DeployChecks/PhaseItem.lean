import DeployChecks.Task

/-!
# PhaseItem — what declares checks

A version of an application or of a workload declares, for each group, the names of its checks,
and keeps their entries.  Main definitions: `PhaseItem`, `declared`, `statuses`, `setStatuses`,
`taskContext`.
-/

namespace DeployChecks

/-- **The entries of a phase item**, one list per group. -/
structure PhaseStatuses where
  /-- The entries of the checks before the deployment. -/
  pre : List ItemStatus
  /-- The entries of the checks after the deployment. -/
  post : List ItemStatus
  deriving DecidableEq

namespace PhaseStatuses

/-- No entries. -/
def empty : PhaseStatuses := ⟨[], []⟩

instance : Inhabited PhaseStatuses := ⟨empty⟩

/-- The entries of a group. -/
def get (s : PhaseStatuses) : CheckGroup → List ItemStatus
  | .pre => s.pre
  | .post => s.post

/-- Replace the entries of a group. -/
def set (s : PhaseStatuses) (group : CheckGroup) (statuses : List ItemStatus) : PhaseStatuses :=
  match group with
  | .pre => { s with pre := statuses }
  | .post => { s with post := statuses }

@[simp] theorem get_set_self (s : PhaseStatuses) (g : CheckGroup) (l : List ItemStatus) :
    (s.set g l).get g = l := by cases g <;> rfl

theorem get_set_of_ne (s : PhaseStatuses) {g h : CheckGroup} (l : List ItemStatus) (hne : h ≠ g) :
    (s.set g l).get h = s.get h := by cases g <;> cases h <;> first | rfl | exact absurd rfl hne

/-- The fields of the JSON form. -/
def fields : Json.Fields PhaseStatuses :=
  PhaseStatuses.mk <$> .defaulted "preDeploymentTaskStatuses" Json.Codec.decode []
    <*> .defaulted "postDeploymentTaskStatuses" Json.Codec.decode []

instance : Json.Codec PhaseStatuses where
  encode s := .object
    [("preDeploymentTaskStatuses", Json.Codec.encode s.pre),
      ("postDeploymentTaskStatuses", Json.Codec.encode s.post)]
  decode := fields.decoder

end PhaseStatuses

/-- **What an application version declares.** -/
structure AppVersionSpec where
  /-- The application. -/
  appName : String
  /-- Its version. -/
  version : String
  /-- The checks before the deployment. -/
  preTasks : List String
  /-- The checks after the deployment. -/
  postTasks : List String
  /-- Named values for every task. -/
  metadata : StringMap String
  deriving DecidableEq

/-- **A version of an application.** -/
structure AppVersion where
  /-- The name. -/
  name : String
  /-- The namespace. -/
  ns : String
  /-- The unique identity. -/
  uid : String
  /-- What it declares. -/
  spec : AppVersionSpec
  /-- Its entries. -/
  status : PhaseStatuses
  deriving DecidableEq

/-- **What a workload version declares.** -/
structure WorkloadVersionSpec where
  /-- The application. -/
  appName : String
  /-- The workload. -/
  workloadName : String
  /-- Its version. -/
  version : String
  /-- The checks before the deployment. -/
  preTasks : List String
  /-- The checks after the deployment. -/
  postTasks : List String
  /-- Named values for every task. -/
  metadata : StringMap String
  deriving DecidableEq

/-- **A version of a workload.** -/
structure WorkloadVersion where
  /-- The name. -/
  name : String
  /-- The namespace. -/
  ns : String
  /-- The unique identity. -/
  uid : String
  /-- What it declares. -/
  spec : WorkloadVersionSpec
  /-- Its entries. -/
  status : PhaseStatuses
  deriving DecidableEq

namespace AppVersionSpec

/-- The fields of the JSON form. -/
def fields : Json.Fields AppVersionSpec :=
  AppVersionSpec.mk <$> .required "appName" .text <*> .required "version" .text
    <*> .defaulted "preDeploymentTasks" (.list .text) []
    <*> .defaulted "postDeploymentTasks" (.list .text) []
    <*> .defaulted "metadata" (.stringMap .text) {}

instance : Json.Codec AppVersionSpec where
  encode s := .object
    [("appName", .string s.appName), ("version", .string s.version),
      ("preDeploymentTasks", .strings s.preTasks),
      ("postDeploymentTasks", .strings s.postTasks),
      ("metadata", .stringMap s.metadata)]
  decode := fields.decoder

end AppVersionSpec

namespace AppVersion

/-- A version without checks, named after the application and the version. -/
def bare (app ns version uid : String) : AppVersion :=
  ⟨s!"{app}-{version}", ns, uid, ⟨app, version, [], [], {}⟩, .empty⟩

/-- The fields of the JSON form. -/
def fields : Json.Fields AppVersion :=
  AppVersion.mk <$> .required "name" .text <*> .required "namespace" .text
    <*> .required "uid" .text <*> .required "spec" Json.Codec.decode
    <*> .defaulted "status" Json.Codec.decode .empty

instance : Json.Codec AppVersion where
  encode v := .object
    [("name", .string v.name), ("namespace", .string v.ns), ("uid", .string v.uid),
      ("spec", Json.Codec.encode v.spec), ("status", Json.Codec.encode v.status)]
  decode := fields.decoder

end AppVersion

namespace WorkloadVersionSpec

/-- The fields of the JSON form. -/
def fields : Json.Fields WorkloadVersionSpec :=
  WorkloadVersionSpec.mk <$> .required "appName" .text <*> .required "workloadName" .text
    <*> .required "version" .text <*> .defaulted "preDeploymentTasks" (.list .text) []
    <*> .defaulted "postDeploymentTasks" (.list .text) []
    <*> .defaulted "metadata" (.stringMap .text) {}

instance : Json.Codec WorkloadVersionSpec where
  encode s := .object
    [("appName", .string s.appName), ("workloadName", .string s.workloadName),
      ("version", .string s.version), ("preDeploymentTasks", .strings s.preTasks),
      ("postDeploymentTasks", .strings s.postTasks),
      ("metadata", .stringMap s.metadata)]
  decode := fields.decoder

end WorkloadVersionSpec

namespace WorkloadVersion

/-- A version without checks, named after the application, the workload and the version. -/
def bare (app workload ns version uid : String) : WorkloadVersion :=
  ⟨s!"{app}-{workload}-{version}", ns, uid, ⟨app, s!"{app}-{workload}", version, [], [], {}⟩,
    .empty⟩

/-- The fields of the JSON form. -/
def fields : Json.Fields WorkloadVersion :=
  WorkloadVersion.mk <$> .required "name" .text <*> .required "namespace" .text
    <*> .required "uid" .text <*> .required "spec" Json.Codec.decode
    <*> .defaulted "status" Json.Codec.decode .empty

instance : Json.Codec WorkloadVersion where
  encode v := .object
    [("name", .string v.name), ("namespace", .string v.ns), ("uid", .string v.uid),
      ("spec", Json.Codec.encode v.spec), ("status", Json.Codec.encode v.status)]
  decode := fields.decoder

end WorkloadVersion

/-- **A phase item**: a version whose deployment waits for checks. -/
inductive PhaseItem where
  /-- A version of an application. -/
  | app (v : AppVersion)
  /-- A version of a workload. -/
  | workload (v : WorkloadVersion)
  deriving DecidableEq

namespace PhaseItem

/-- The kind of the resource. -/
def kind : PhaseItem → String
  | app _ => "KeptnAppVersion"
  | workload _ => "KeptnWorkloadVersion"

/-- The name. -/
def name : PhaseItem → String
  | app v => v.name
  | workload v => v.name

/-- The namespace. -/
def ns : PhaseItem → String
  | app v => v.ns
  | workload v => v.ns

/-- The unique identity. -/
def uid : PhaseItem → String
  | app v => v.uid
  | workload v => v.uid

/-- The application. -/
def appName : PhaseItem → String
  | app v => v.spec.appName
  | workload v => v.spec.appName

/-- The version. -/
def version : PhaseItem → String
  | app v => v.spec.version
  | workload v => v.spec.version

/-- Named values for every task. -/
def metadata : PhaseItem → StringMap String
  | app v => v.spec.metadata
  | workload v => v.spec.metadata

/-- The entries of both groups. -/
def status : PhaseItem → PhaseStatuses
  | app v => v.status
  | workload v => v.status

/-- **The names that are declared for a group.** -/
def declared (item : PhaseItem) (group : CheckGroup) : List String :=
  match item, group with
  | app v, .pre => v.spec.preTasks
  | app v, .post => v.spec.postTasks
  | workload v, .pre => v.spec.preTasks
  | workload v, .post => v.spec.postTasks

/-- **The entries of a group.** -/
def statuses (item : PhaseItem) (group : CheckGroup) : List ItemStatus := item.status.get group

/-- The item with other entries. -/
def withStatus (item : PhaseItem) (status : PhaseStatuses) : PhaseItem :=
  match item with
  | app v => app { v with status }
  | workload v => workload { v with status }

/-- **Store the entries of a group.** -/
def setStatuses (item : PhaseItem) (group : CheckGroup) (l : List ItemStatus) : PhaseItem :=
  item.withStatus (item.status.set group l)

@[simp] theorem status_withStatus (item : PhaseItem) (s : PhaseStatuses) :
    (item.withStatus s).status = s := by cases item <;> rfl

@[simp] theorem statuses_setStatuses_self (item : PhaseItem) (g : CheckGroup)
    (l : List ItemStatus) : (item.setStatuses g l).statuses g = l := by
  simp [setStatuses, statuses]

/-- The item as the owner of its tasks. -/
def ownerReference (item : PhaseItem) : OwnerReference := ⟨item.kind, item.name, item.uid, true⟩

/-- **What a task of the item knows about the deployment**, metadata apart. -/
def taskContext (item : PhaseItem) (group : CheckGroup) : TaskContext :=
  match item with
  | app v => ⟨v.spec.appName, v.spec.version, "", "", group.tag, "App", {}⟩
  | workload v =>
    ⟨v.spec.appName, "", v.spec.workloadName, v.spec.version, group.tag, "Workload", {}⟩

end PhaseItem

end DeployChecks
