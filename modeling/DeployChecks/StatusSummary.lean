import DeployChecks.ItemStatus

/-!
# StatusSummary — how many entries stand where

A count for each state, and the single state that speaks for the whole group.  Main definitions:
`StatusSummary`, `ofStates`, `overall`.
-/

namespace DeployChecks

/-- **Counts of entries by state.** -/
structure StatusSummary where
  /-- All entries. -/
  total : Nat
  /-- The pending ones. -/
  pending : Nat
  /-- The running ones. -/
  running : Nat
  /-- The succeeded ones. -/
  succeeded : Nat
  /-- The failed ones. -/
  failed : Nat
  deriving DecidableEq, Repr

namespace StatusSummary

/-- The summary of no entries. -/
def zero : StatusSummary := ⟨0, 0, 0, 0, 0⟩

instance : Inhabited StatusSummary := ⟨zero⟩

/-- Count one more entry. -/
def record (s : StatusSummary) (state : TaskState) : StatusSummary :=
  let s := { s with total := s.total + 1 }
  match state with
  | .pending => { s with pending := s.pending + 1 }
  | .running => { s with running := s.running + 1 }
  | .succeeded => { s with succeeded := s.succeeded + 1 }
  | .failed => { s with failed := s.failed + 1 }

/-- **The summary of a list of states.** -/
def ofStates (states : List TaskState) : StatusSummary := states.foldl record zero

/-- **The summary of a list of entries.** -/
def ofStatuses (statuses : List ItemStatus) : StatusSummary := ofStates (statuses.map (·.state))

/-- The entries that are finished. -/
def completed (s : StatusSummary) : Nat := s.succeeded + s.failed

/-- Every entry is finished. -/
def isComplete (s : StatusSummary) : Bool := s.completed == s.total

/-- **The state of the whole group**: a failure decides, then whatever is least advanced; a group
without entries has succeeded. -/
def overall (s : StatusSummary) : TaskState :=
  if 0 < s.failed then .failed
  else if 0 < s.running then .running
  else if 0 < s.pending then .pending
  else .succeeded

/-- A count of sixty-four bits. -/
def count : Json.Decoder Nat := .natBelow UInt64.size

/-- The fields of the JSON form. -/
def fields : Json.Fields StatusSummary :=
  StatusSummary.mk <$> .required "total" count <*> .required "pending" count
    <*> .required "running" count <*> .required "succeeded" count <*> .required "failed" count

instance : Json.Codec StatusSummary where
  encode s := .object
    [("total", .nat s.total), ("pending", .nat s.pending), ("running", .nat s.running),
      ("succeeded", .nat s.succeeded), ("failed", .nat s.failed)]
  decode := fields.decoder

end StatusSummary

end DeployChecks
