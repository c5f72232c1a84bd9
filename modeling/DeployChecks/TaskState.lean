import DeployChecks.Json.Decode

/-!
# TaskState — where a task stands

Two of the four states are terminal: a task never leaves them.  Main definitions: `TaskState`,
`isTerminal`, `completes`.
-/

namespace DeployChecks

/-- **The state of a task.** -/
inductive TaskState where
  /-- Not started. -/
  | pending
  /-- Under way. -/
  | running
  /-- Finished well. -/
  | succeeded
  /-- Finished badly. -/
  | failed
  deriving DecidableEq, Repr

namespace TaskState

instance : Inhabited TaskState := ⟨.pending⟩

/-- Every state, in order. -/
def all : List TaskState := [pending, running, succeeded, failed]

/-- The name of a state. -/
def name : TaskState → String
  | pending => "Pending"
  | running => "Running"
  | succeeded => "Succeeded"
  | failed => "Failed"

/-- The state with a given name. -/
def ofName? (s : String) : Option TaskState := all.find? fun x => x.name = s

/-- The wording for a text that names no state. -/
def unknownMessage (s : String) : String := s!"Invalid task state: {s}"

/-- The task is finished. -/
def isTerminal : TaskState → Bool
  | succeeded | failed => true
  | pending | running => false

/-- The task finished well. -/
def isSucceeded (s : TaskState) : Bool := s == succeeded

/-- The task finished badly. -/
def isFailed (s : TaskState) : Bool := s == failed

/-- **The first terminal observation**: the task is finished and was not before. -/
def completes (s : TaskState) (previous : Option TaskState) : Bool :=
  s.isTerminal && !previous.any isTerminal

theorem ofName?_name (s : TaskState) : ofName? s.name = some s := by cases s <;> decide

instance : Json.Codec TaskState where
  encode s := .string s.name
  decode := Json.Decoder.choice (all.map fun s => (s.name, s))

end TaskState

end DeployChecks
