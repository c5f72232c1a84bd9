import DeployChecks.Decimal.Layout

/-!
# Log/Record — one entry of a log

A message with a level and named values.  Main definitions: `Log.Level`, `Log.Value`,
`Log.Record`.
-/

namespace DeployChecks

namespace Log

/-- **How important a record is**, the most important first. -/
inductive Level where
  /-- Something failed. -/
  | error
  /-- Something may be wrong. -/
  | warn
  /-- The normal course. -/
  | info
  /-- For the search of faults. -/
  | debug
  /-- Everything. -/
  | trace
  deriving DecidableEq, Repr

namespace Level

/-- The name in capitals. -/
def name : Level → String
  | error => "ERROR"
  | warn => "WARN"
  | info => "INFO"
  | debug => "DEBUG"
  | trace => "TRACE"

/-- The number of a level, from one for errors. -/
def rank : Level → Nat
  | error => 1
  | warn => 2
  | info => 3
  | debug => 4
  | trace => 5

end Level

/-- **A named value of a record.** -/
inductive Value where
  /-- A text that is shown as it is. -/
  | shown (s : String)
  /-- A text that is quoted where records are text. -/
  | text (s : String)
  /-- A truth value. -/
  | bool (b : Bool)
  /-- A count. -/
  | count (n : Nat)
  /-- A double. -/
  | double (x : Binary64)
  deriving DecidableEq, Repr

/-- **A record.** -/
structure Record where
  /-- The level. -/
  level : Level
  /-- The message. -/
  message : String
  /-- The named values, in order. -/
  fields : List (String × Value)
  /-- The names of the values that records of this kind may leave out. -/
  optional : List String
  deriving DecidableEq, Repr

namespace Record

/-- The name under which the message stands beside the values. -/
def messageName : String := "message"

/-- **The record has a place** for a value of this name, left out or not. -/
def hasPlace (r : Record) (name : String) : Bool :=
  name = messageName || r.fields.any (·.1 = name) || r.optional.contains name

end Record

/-- A record of the level `error`. -/
def error (message : String) (fields : List (String × Value)) : Record :=
  ⟨.error, message, fields, []⟩

/-- A record of the level `warn`. -/
def warn (message : String) (fields : List (String × Value)) : Record :=
  ⟨.warn, message, fields, []⟩

/-- A record of the level `info`. -/
def info (message : String) (fields : List (String × Value)) : Record :=
  ⟨.info, message, fields, []⟩

/-- A record of the level `debug`. -/
def debug (message : String) (fields : List (String × Value)) : Record :=
  ⟨.debug, message, fields, []⟩

/-- A named value that may be left out. -/
def optionalText (name : String) (s : Option String) : List (String × Value) :=
  match s with
  | some s => [(name, .text s)]
  | none => []

end Log

end DeployChecks
