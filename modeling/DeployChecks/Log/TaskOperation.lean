import DeployChecks.Log.Record
import DeployChecks.Timestamp.Basic

/-!
# Log/TaskOperation — the record of something done with a task
-/

namespace DeployChecks

namespace Log

/-- **Something done with a task.** -/
structure TaskOperation where
  /-- What was done. -/
  operation : String
  /-- The definition of the task. -/
  definition : String
  /-- The name of the task. -/
  task : Option String
  /-- The namespace. -/
  ns : String
  /-- The state in which it left the task. -/
  status : String
  /-- More about it. -/
  details : Option String

/-- The name of the value that tells the time. -/
def timeField : String := "timestamp"

/-- **The record of an operation.** -/
def TaskOperation.record (o : TaskOperation) (now : Timestamp) : Record where
  level := .info
  message := "TASK_OPERATION"
  fields :=
    [("operation", .shown o.operation), ("definition", .shown o.definition)]
      ++ optionalText "task" o.task
      ++ [("namespace", .shown o.ns), ("status", .shown o.status)]
      ++ optionalText "details" o.details
      ++ [(timeField, .shown now.writeOffset)]
  optional := ["task", "details"]

end Log

end DeployChecks
