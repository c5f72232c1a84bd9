import DeployChecks.TaskState
import DeployChecks.Timestamp.Reader

/-!
# ItemStatus — the progress kept for one definition

The host stores one entry per declared definition between two passes.  Main definitions:
`ItemStatus`, `ItemStatus.fresh`, `findStatus`, and the two times, which are set once.
-/

namespace DeployChecks

instance : Json.Codec Timestamp where
  encode t := .string t.write
  decode := Json.Decoder.textual Timestamp.read?

/-- **The progress of one declared definition.** -/
structure ItemStatus where
  /-- The definition that the entry is about. -/
  definition : String
  /-- The name of the task, empty as long as there is none. -/
  task : String
  /-- The state last seen. -/
  state : TaskState
  /-- When the task was created. -/
  startTime : Option Timestamp
  /-- When the task was first seen finished. -/
  endTime : Option Timestamp
  deriving DecidableEq

namespace ItemStatus

/-- **The entry of a definition without a task.** -/
def fresh (definition : String) : ItemStatus := ⟨definition, "", .pending, none, none⟩

instance : Inhabited ItemStatus := ⟨fresh ""⟩

/-- The task is finished. -/
def isTerminal (s : ItemStatus) : Bool := s.state.isTerminal

/-- There is a task. -/
def hasTask (s : ItemStatus) : Bool := !s.task.isEmpty

/-- Set the start, unless it is set. -/
def started (s : ItemStatus) (now : Timestamp) : ItemStatus :=
  { s with startTime := s.startTime.or (some now) }

/-- Set the end, unless it is set. -/
def ended (s : ItemStatus) (now : Timestamp) : ItemStatus :=
  { s with endTime := s.endTime.or (some now) }

/-- **The entry after its task was lost**: as if none had been created. -/
def withoutTask (s : ItemStatus) : ItemStatus :=
  { s with task := "", state := .pending, startTime := none }

/-- The fields of the JSON form. -/
def fields : Json.Fields ItemStatus :=
  ItemStatus.mk <$> .required "definitionName" .text <*> .defaulted "name" .text ""
    <*> .required "status" Json.Codec.decode <*> .optional "startTime" Json.Codec.decode
    <*> .optional "endTime" Json.Codec.decode

instance : Json.Codec ItemStatus where
  encode s := .object <|
    [("definitionName", .string s.definition), ("name", .string s.task),
      ("status", Json.Codec.encode s.state)]
      ++ Json.optionalMember "startTime" (s.startTime.map Json.Codec.encode)
      ++ Json.optionalMember "endTime" (s.endTime.map Json.Codec.encode)
  decode := fields.decoder

end ItemStatus

/-- **The first entry of a definition.** -/
def findStatus (definition : String) (statuses : List ItemStatus) : Option ItemStatus :=
  statuses.find? fun s => s.definition = definition

/-- **The entry to start from**: the first one of the definition, or a fresh one. -/
def statusOrFresh (definition : String) (statuses : List ItemStatus) : ItemStatus :=
  (findStatus definition statuses).getD (.fresh definition)

end DeployChecks
