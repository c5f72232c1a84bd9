import DeployChecks.PhaseEvent
import DeployChecks.Proofs.Codec.Records
import DeployChecks.Reconciliation

/-!
# Proofs/Codec/Models — what is stored and sent comes back

Each record encodes the fields that it decodes, in the order of their declaration, and a field that
it leaves out has the default that stands for it.  So each is read from its own JSON form; records
within records follow, from the inside out.
-/

namespace DeployChecks

open Json Json.Fields

variable {depth : Nat}

/-! ## Names -/

theorem TaskState.reads (s : TaskState) :
    Reads Codec.decode .plain depth (Codec.encode s) s :=
  .choice (by cases s <;> rfl)

theorem CheckGroup.reads (g : CheckGroup) :
    Reads Codec.decode .plain depth (Codec.encode g) g :=
  .choice (by cases g <;> rfl)

theorem Phase.reads (p : Phase) :
    Reads Codec.decode .plain depth (Codec.encode p) p :=
  .choice (by cases p <;> rfl)

theorem Severity.reads (s : Severity) :
    Reads Codec.decode .plain depth (Codec.encode s) s :=
  .choice (by cases s <;> rfl)

/-- A reason is a name, or a name with a text. -/
theorem SkipReason.reads (r : SkipReason) :
    Reads Codec.decode .plain depth (Codec.encode r) r := by
  cases r with
  | definitionNotFound => exact .plain (.string _) rfl
  | definitionLookupFailed text =>
    refine .plain (.object fun m mem => ?_) rfl
    obtain rfl := List.mem_singleton.1 mem
    exact .string text
  | creationFailed text =>
    refine .plain (.object fun m mem => ?_) rfl
    obtain rfl := List.mem_singleton.1 mem
    exact .string text

/-! ## Forms that are not null -/

theorem Json.string_ne_null (s : String) : Json.string s ≠ .null := nofun

theorem Json.nat_ne_null (n : Nat) : Json.nat n ≠ .null := nofun

theorem Timestamp.encode_ne_null (t : Timestamp) : Codec.encode t ≠ .null := string_ne_null t.write

/-! ## Entries -/

/-- The shape of an entry. -/
def ItemStatus.shape : Shape := fields.shape []

theorem ItemStatus.reads (s : ItemStatus) :
    Reads Codec.decode shape depth (Codec.encode s) s := by
  refine .record (by decide) ?ordered
    (.seq (.seq (.seq (.seq (.map mk ?definition) ?task) ?state) ?startTime) ?endTime)
  case ordered =>
    rw [List.map_append, List.map_append]
    exact ((List.Sublist.refl _).append (sublist_optionalMember _ _)).append
      (sublist_optionalMember _ _)
  case definition => exact .required rfl (.text s.definition)
  case task => exact .defaulted rfl (.text s.task)
  case state => exact .required rfl s.state.reads
  case startTime =>
    exact .optional (by simp [List.lookup_append, List.lookup_cons]) Timestamp.encode_ne_null
      .timestamp
  case endTime =>
    exact .optional (by simp [List.lookup_append, List.lookup_cons]) Timestamp.encode_ne_null
      .timestamp

/-- The shape of the entries of a phase item. -/
def PhaseStatuses.shape : Shape :=
  fields.shape [("preDeploymentTaskStatuses", .list ItemStatus.shape),
    ("postDeploymentTaskStatuses", .list ItemStatus.shape)]

theorem PhaseStatuses.reads (s : PhaseStatuses) :
    Reads Codec.decode shape depth (Codec.encode s) s := by
  refine .record (by decide) (.refl _) (.seq (.map mk ?pre) ?post)
  case pre => exact .defaulted rfl (.list fun s _ => s.reads)
  case post => exact .defaulted rfl (.list fun s _ => s.reads)

theorem AppVersionSpec.reads (s : AppVersionSpec) :
    Reads Codec.decode (fields.shape []) depth (Codec.encode s) s := by
  refine .record (by decide) (.refl _)
    (.seq (.seq (.seq (.seq (.map mk ?appName) ?version) ?preTasks) ?postTasks) ?metadata)
  case appName => exact .required rfl (.text s.appName)
  case version => exact .required rfl (.text s.version)
  case preTasks => exact .defaulted rfl (.texts s.preTasks)
  case postTasks => exact .defaulted rfl (.texts s.postTasks)
  case metadata => exact .defaulted rfl (.stringMap s.metadata)

/-- The shape of a version of an application. -/
def AppVersion.shape : Shape :=
  fields.shape [("spec", AppVersionSpec.fields.shape []), ("status", PhaseStatuses.shape)]

theorem AppVersion.reads (v : AppVersion) :
    Reads Codec.decode shape depth (Codec.encode v) v := by
  refine .record (by decide) (.refl _)
    (.seq (.seq (.seq (.seq (.map mk ?name) ?ns) ?uid) ?spec) ?status)
  case name => exact .required rfl (.text v.name)
  case ns => exact .required rfl (.text v.ns)
  case uid => exact .required rfl (.text v.uid)
  case spec => exact .required rfl v.spec.reads
  case status => exact .defaulted rfl v.status.reads

theorem WorkloadVersionSpec.reads (s : WorkloadVersionSpec) :
    Reads Codec.decode (fields.shape []) depth (Codec.encode s) s := by
  refine .record (by decide) (.refl _)
    (.seq (.seq (.seq (.seq (.seq (.map mk ?appName) ?workloadName) ?version) ?preTasks) ?postTasks)
      ?metadata)
  case appName => exact .required rfl (.text s.appName)
  case workloadName => exact .required rfl (.text s.workloadName)
  case version => exact .required rfl (.text s.version)
  case preTasks => exact .defaulted rfl (.texts s.preTasks)
  case postTasks => exact .defaulted rfl (.texts s.postTasks)
  case metadata => exact .defaulted rfl (.stringMap s.metadata)

/-- The shape of a version of a workload. -/
def WorkloadVersion.shape : Shape :=
  fields.shape [("spec", WorkloadVersionSpec.fields.shape []), ("status", PhaseStatuses.shape)]

theorem WorkloadVersion.reads (v : WorkloadVersion) :
    Reads Codec.decode shape depth (Codec.encode v) v := by
  refine .record (by decide) (.refl _)
    (.seq (.seq (.seq (.seq (.map mk ?name) ?ns) ?uid) ?spec) ?status)
  case name => exact .required rfl (.text v.name)
  case ns => exact .required rfl (.text v.ns)
  case uid => exact .required rfl (.text v.uid)
  case spec => exact .required rfl v.spec.reads
  case status => exact .defaulted rfl v.status.reads

/-! ## Results of a pass -/

/-- The counts of a summary fit into sixty-four bits. -/
structure StatusSummary.InRange (s : StatusSummary) : Prop where
  /-- All entries. -/
  total : s.total < UInt64.size
  /-- The pending ones. -/
  pending : s.pending < UInt64.size
  /-- The running ones. -/
  running : s.running < UInt64.size
  /-- The succeeded ones. -/
  succeeded : s.succeeded < UInt64.size
  /-- The failed ones. -/
  failed : s.failed < UInt64.size

/-- The shape of a summary. -/
def StatusSummary.shape : Shape := fields.shape []

theorem StatusSummary.reads {s : StatusSummary} (range : s.InRange) :
    Reads Codec.decode shape depth (Codec.encode s) s := by
  refine .record (by decide) (.refl _)
    (.seq (.seq (.seq (.seq (.map mk ?total) ?pending) ?running) ?succeeded) ?failed)
  case total => exact .required rfl (.natBelow range.total (Nat.le_refl _))
  case pending => exact .required rfl (.natBelow range.pending (Nat.le_refl _))
  case running => exact .required rfl (.natBelow range.running (Nat.le_refl _))
  case succeeded => exact .required rfl (.natBelow range.succeeded (Nat.le_refl _))
  case failed => exact .required rfl (.natBelow range.failed (Nat.le_refl _))

theorem SkippedItem.reads (s : SkippedItem) :
    Reads Codec.decode (fields.shape []) depth (Codec.encode s) s := by
  refine .record (by decide) (.refl _) (.seq (.map mk ?definition) ?reason)
  case definition => exact .required rfl (.text s.definition)
  case reason => exact .required rfl s.reason.reads

/-- The shape of the result of a pass. -/
def Reconciliation.shape : Shape :=
  fields.shape [("statuses", .list ItemStatus.shape), ("summary", StatusSummary.shape),
    ("skipped", .list (SkippedItem.fields.shape []))]

theorem Reconciliation.reads {r : Reconciliation} (range : r.summary.InRange) :
    Reads Codec.decode shape depth (Codec.encode r) r := by
  refine .record (by decide) (.refl _)
    (.seq (.seq (.seq (.seq (.map mk ?statuses) ?summary) ?created) ?completed) ?skipped)
  case statuses => exact .required rfl (.list fun s _ => s.reads)
  case summary => exact .required rfl (StatusSummary.reads range)
  case created => exact .required rfl (.texts r.created)
  case completed => exact .required rfl (.texts r.completed)
  case skipped => exact .required rfl (.list fun s _ => s.reads)

/-! ## Definitions and tasks -/

theorem TaskDefinitionSpec.reads {s : TaskDefinitionSpec}
    (kept : s.runtime.Kept (maxNesting - (depth + 1))) :
    Reads Codec.decode (fields.shape []) depth (Codec.encode s) s := by
  refine .record (by decide) ?ordered
    (.seq (.seq (.seq (.seq (.map mk ?runtime) ?parameters) ?secureParameters) ?retries)
      ?timeoutSeconds)
  case ordered =>
    rw [List.map_append, List.map_append, List.map_append]
    exact (((List.Sublist.refl _).append (sublist_optionalMember _ _)).append
      (sublist_optionalMember _ _)).append (sublist_optionalMember _ _)
  case runtime => exact .defaulted rfl (.json kept)
  case parameters => exact .defaulted rfl (.stringMap s.parameters)
  case secureParameters =>
    exact .optional (by simp [List.lookup_append, List.lookup_cons]) string_ne_null .text
  case retries =>
    exact .optional (by simp [List.lookup_append, List.lookup_cons]) (fun n => nat_ne_null n.toNat)
      .word32
  case timeoutSeconds =>
    exact .optional (by simp [List.lookup_append, List.lookup_cons]) (fun n => nat_ne_null n.toNat)
      .word64

/-- The shape of a definition. -/
def TaskDefinition.shape : Shape :=
  fields.shape [("spec", TaskDefinitionSpec.fields.shape [])]

theorem TaskDefinition.reads {d : TaskDefinition}
    (kept : d.spec.runtime.Kept (maxNesting - (depth + 2))) :
    Reads Codec.decode shape depth (Codec.encode d) d := by
  refine .record (by decide) (.refl _) (.seq (.seq (.map mk ?name) ?ns) ?spec)
  case name => exact .required rfl (.text d.name)
  case ns => exact .required rfl (.text d.ns)
  case spec => exact .required rfl (TaskDefinitionSpec.reads kept)

theorem OwnerReference.reads (o : OwnerReference) :
    Reads Codec.decode (fields.shape []) depth (Codec.encode o) o := by
  refine .record (by decide) (.refl _)
    (.seq (.seq (.seq (.map mk ?kind) ?name) ?uid) ?controller)
  case kind => exact .required rfl (.text o.kind)
  case name => exact .required rfl (.text o.name)
  case uid => exact .required rfl (.text o.uid)
  case controller => exact .required rfl (.bool o.controller)

theorem TaskContext.reads (c : TaskContext) :
    Reads Codec.decode (fields.shape []) depth (Codec.encode c) c := by
  refine .record (by decide) (.refl _)
    (.seq (.seq (.seq (.seq (.seq (.seq (.map mk ?appName) ?appVersion) ?workloadName)
      ?workloadVersion) ?taskType) ?objectType) ?metadata)
  case appName => exact .required rfl (.text c.appName)
  case appVersion => exact .required rfl (.text c.appVersion)
  case workloadName => exact .defaulted rfl (.text c.workloadName)
  case workloadVersion => exact .defaulted rfl (.text c.workloadVersion)
  case taskType => exact .required rfl (.text c.taskType)
  case objectType => exact .required rfl (.text c.objectType)
  case metadata => exact .defaulted rfl (.stringMap c.metadata)

/-- The shape of what a task asks for. -/
def TaskSpec.shape : Shape := fields.shape [("context", TaskContext.fields.shape [])]

theorem TaskSpec.reads {s : TaskSpec} (kept : s.runtime.Kept (maxNesting - (depth + 1))) :
    Reads Codec.decode shape depth (Codec.encode s) s := by
  refine .record (by decide) ?ordered
    (.seq (.seq (.seq (.seq (.seq (.seq (.seq (.map mk ?definition) ?checkType) ?context) ?runtime)
      ?parameters) ?secureParameters) ?retries) ?timeoutSeconds)
  case ordered =>
    rw [List.map_append, List.map_append]
    exact ((List.Sublist.refl _).append (sublist_optionalMember _ _)).append (.refl _)
  case definition => exact .required rfl (.text s.definition)
  case checkType => exact .required rfl s.checkType.reads
  case context => exact .required rfl s.context.reads
  case runtime => exact .defaulted rfl (.json kept)
  case parameters => exact .defaulted rfl (.stringMap s.parameters)
  case secureParameters =>
    exact .optional (by simp [List.lookup_append, List.lookup_cons]) string_ne_null .text
  case retries =>
    exact .required (by simp [List.lookup_append, List.lookup_cons]) (.word32 s.retries)
  case timeoutSeconds =>
    exact .required (by simp [List.lookup_append, List.lookup_cons]) (.word64 s.timeoutSeconds)

theorem TaskStatus.reads (s : TaskStatus) :
    Reads Codec.decode (fields.shape []) depth (Codec.encode s) s := by
  refine .record (by decide) ?ordered
    (.seq (.seq (.seq (.map mk ?state) ?message) ?startTime) ?endTime)
  case ordered =>
    rw [List.map_append, List.map_append]
    exact ((List.Sublist.refl _).append (sublist_optionalMember _ _)).append
      (sublist_optionalMember _ _)
  case state => exact .required rfl s.state.reads
  case message => exact .defaulted rfl (.text s.message)
  case startTime =>
    exact .optional (by simp [List.lookup_append, List.lookup_cons]) Timestamp.encode_ne_null
      .timestamp
  case endTime =>
    exact .optional (by simp [List.lookup_append, List.lookup_cons]) Timestamp.encode_ne_null
      .timestamp

/-- The shape of a task. -/
def Task.shape : Shape :=
  fields.shape [("owner", OwnerReference.fields.shape []), ("spec", TaskSpec.shape),
    ("status", TaskStatus.fields.shape [])]

theorem Task.reads {t : Task} (kept : t.spec.runtime.Kept (maxNesting - (depth + 2))) :
    Reads Codec.decode shape depth (Codec.encode t) t := by
  refine .record (by decide) (.refl _)
    (.seq (.seq (.seq (.seq (.map mk ?name) ?ns) ?owner) ?spec) ?status)
  case name => exact .required rfl (.text t.name)
  case ns => exact .required rfl (.text t.ns)
  case owner => exact .required rfl t.owner.reads
  case spec => exact .required rfl (TaskSpec.reads kept)
  case status => exact .defaulted rfl t.status.reads

/-! ## Events -/

theorem EventSubject.reads (s : EventSubject) :
    Reads Codec.decode (fields.shape []) depth (Codec.encode s) s := by
  refine .record (by decide) (.refl _) (.seq (.seq (.map mk ?kind) ?ns) ?name)
  case kind => exact .required rfl (.text s.kind)
  case ns => exact .required rfl (.text s.ns)
  case name => exact .required rfl (.text s.name)

/-- The shape of an event. -/
def PhaseEvent.shape : Shape := fields.shape [("subject", EventSubject.fields.shape [])]

theorem PhaseEvent.reads (e : PhaseEvent) :
    Reads Codec.decode shape depth (Codec.encode e) e := by
  refine .record (by decide) (.refl _)
    (.seq (.seq (.seq (.seq (.seq (.seq (.map mk ?phase) ?severity) ?subject) ?reason) ?message)
      ?version) ?emittedAt)
  case phase => exact .required rfl e.phase.reads
  case severity => exact .required rfl e.severity.reads
  case subject => exact .required rfl e.subject.reads
  case reason => exact .required rfl (.text e.reason)
  case message => exact .required rfl (.text e.message)
  case version => exact .required rfl (.text e.version)
  case emittedAt => exact .required rfl (.timestamp e.emittedAt)

end DeployChecks
