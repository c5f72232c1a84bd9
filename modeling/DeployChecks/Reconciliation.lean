import DeployChecks.StatusSummary

/-!
# Reconciliation — the result of a pass

Every declared definition has one outcome; the result of a pass is folded from them.  Main
definitions: `Outcome`, `Reconciliation`, `Reconciliation.record`.
-/

namespace DeployChecks

/-- **Why a definition was left for the next pass.** -/
inductive SkipReason where
  /-- There is no definition of the name. -/
  | definitionNotFound
  /-- The definition could not be looked up. -/
  | definitionLookupFailed (text : String)
  /-- The task could not be created. -/
  | creationFailed (text : String)
  deriving DecidableEq, Repr

namespace SkipReason

instance : Json.Codec SkipReason where
  encode
    | definitionNotFound => .string "definition_not_found"
    | definitionLookupFailed text => .object [("definition_lookup_failed", .string text)]
    | creationFailed text => .object [("creation_failed", .string text)]
  decode := Json.Decoder.variant
    [("definition_not_found", .bare definitionNotFound),
      ("definition_lookup_failed",
        .carrying fun depth v => (Json.Decoder.text depth v).map definitionLookupFailed),
      ("creation_failed",
        .carrying fun depth v => (Json.Decoder.text depth v).map creationFailed)]

end SkipReason

/-- **What a pass did about one definition.** -/
inductive Outcome where
  /-- It was finished before; nothing was done. -/
  | unchanged (status : ItemStatus)
  /-- Its task was created. -/
  | created (status : ItemStatus)
  /-- Its task was read back, `completed` at the first terminal observation. -/
  | refreshed (status : ItemStatus) (completed : Bool)
  /-- Nothing could be created. -/
  | skipped (status : ItemStatus) (reason : SkipReason)
  deriving DecidableEq

/-- The entry that an outcome leaves. -/
def Outcome.status : Outcome → ItemStatus
  | unchanged s | created s | refreshed s _ | skipped s _ => s

/-- **A definition that was left for the next pass.** -/
structure SkippedItem where
  /-- The definition. -/
  definition : String
  /-- Why it was left. -/
  reason : SkipReason
  deriving DecidableEq, Repr

/-- **The result of a pass.** -/
structure Reconciliation where
  /-- The entries in the order of the declarations. -/
  statuses : List ItemStatus
  /-- Their summary. -/
  summary : StatusSummary
  /-- The definitions whose task was created. -/
  created : List String
  /-- The definitions whose task was first seen finished. -/
  completed : List String
  /-- The definitions that were left for the next pass. -/
  skipped : List SkippedItem
  deriving DecidableEq

namespace SkippedItem

/-- The fields of the JSON form. -/
def fields : Json.Fields SkippedItem :=
  SkippedItem.mk <$> .required "definition" .text <*> .required "reason" Json.Codec.decode

instance : Json.Codec SkippedItem where
  encode s := .object [("definition", .string s.definition), ("reason", Json.Codec.encode s.reason)]
  decode := fields.decoder

end SkippedItem

namespace Reconciliation

/-- The result before the first definition. -/
def empty : Reconciliation := ⟨[], .zero, [], [], []⟩

instance : Inhabited Reconciliation := ⟨empty⟩

/-- **Add the outcome of one definition.** -/
def record (r : Reconciliation) (o : Outcome) : Reconciliation :=
  let r := { r with statuses := r.statuses ++ [o.status] }
  match o with
  | .unchanged _ => r
  | .created s => { r with created := r.created ++ [s.definition] }
  | .refreshed s completed =>
    if completed then { r with completed := r.completed ++ [s.definition] } else r
  | .skipped s reason => { r with skipped := r.skipped ++ [⟨s.definition, reason⟩] }

/-- Fill in the summary of the entries. -/
def summarized (r : Reconciliation) : Reconciliation :=
  { r with summary := .ofStatuses r.statuses }

/-- Every definition is finished. -/
def isComplete (r : Reconciliation) : Bool := r.summary.isComplete

/-- The fields of the JSON form. -/
def fields : Json.Fields Reconciliation :=
  Reconciliation.mk <$> .required "statuses" Json.Codec.decode
    <*> .required "summary" Json.Codec.decode <*> .required "created" Json.Codec.decode
    <*> .required "completed" Json.Codec.decode <*> .required "skipped" Json.Codec.decode

instance : Json.Codec Reconciliation where
  encode r := .object
    [("statuses", Json.Codec.encode r.statuses), ("summary", Json.Codec.encode r.summary),
      ("created", .strings r.created), ("completed", .strings r.completed),
      ("skipped", Json.Codec.encode r.skipped)]
  decode := fields.decoder

end Reconciliation

end DeployChecks
