import DeployChecks.Decimal.Binary64
import DeployChecks.StringMap

/-!
# Json/Basic — JSON values

Numbers are integers as far as sixty-four bits reach and doubles beyond; the members of an object
keep the order in which they were put in.  Main definitions: `Json`, `Json.Number`, `Json.field?`.
-/

namespace DeployChecks

/-- **A JSON number.** -/
inductive Json.Number where
  /-- An integer. -/
  | int (n : Int)
  /-- A double. -/
  | double (x : Binary64)
  deriving DecidableEq, Repr

/-- **A JSON value.** -/
inductive Json where
  /-- The null value. -/
  | null
  /-- A truth value. -/
  | bool (b : Bool)
  /-- A number. -/
  | number (n : Json.Number)
  /-- A text. -/
  | string (s : String)
  /-- A list of values. -/
  | array (items : List Json)
  /-- Named values. -/
  | object (members : List (String × Json))

namespace Json

instance : Inhabited Json := ⟨.null⟩

/-- An integer as a value. -/
def int (n : Int) : Json := .number (.int n)

/-- A count as a value. -/
def nat (n : Nat) : Json := .int n

/-- A list of texts as a value. -/
def strings (l : List String) : Json := .array (l.map .string)

/-- A value or null. -/
def orNull : Option Json → Json
  | some v => v
  | none => .null

/-- A map of texts as a value. -/
def stringMap (m : StringMap String) : Json := .object (m.toList.map fun e => (e.1, .string e.2))

/-- The member of an object with the given name. -/
def field? (v : Json) (name : String) : Option Json :=
  match v with
  | .object members => members.lookup name
  | _ => none

/-- The text, where the value is one. -/
def string? : Json → Option String
  | .string s => some s
  | _ => none

/-- The truth value, where the value is one. -/
def bool? : Json → Option Bool
  | .bool b => some b
  | _ => none

/-- The integer, where the value is one. -/
def int? : Json → Option Int
  | .number (.int n) => some n
  | _ => none

/-- The items, where the value is a list. -/
def items? : Json → Option (List Json)
  | .array items => some items
  | _ => none

/-- The members, where the value is an object. -/
def members? : Json → Option (List (String × Json))
  | .object members => some members
  | _ => none

end Json

end DeployChecks
