import DeployChecks.Json.Number

/-!
# Json/Raw — what a JSON text spells

A text can be well formed and still hold numbers and strings that stand for nothing: a number too
large for a double, a string with half a surrogate pair.  Such leaves are kept as gaps.  Main
definitions: `Json.Raw`, `Json.ofRaw?`, `Json.toRaw`.
-/

namespace DeployChecks

namespace Json

/-- **A spelled value**, in which numbers and strings may be gaps and names may repeat. -/
inductive Raw where
  /-- The null value. -/
  | null
  /-- A truth value. -/
  | bool (b : Bool)
  /-- A number, a gap if it is too large. -/
  | number (n : Option Number)
  /-- A text, a gap if it spells half a surrogate pair. -/
  | string (s : Option String)
  /-- A list of values. -/
  | array (items : List Raw)
  /-- Named values in the order of the text. -/
  | object (members : List (Option String × Raw))

instance : Inhabited Raw := ⟨.null⟩

/-- The greatest nesting of lists and objects in a value. -/
def maxNesting : Nat := 127

mutual

/-- **The value of a spelled value**: nothing if there is a gap in it, or if lists and objects are
nested more than `room` deep.  Members come in the order of their names, the last of one name
counting. -/
def ofRaw? (room : Nat) : Raw → Option Json
  | .null => some .null
  | .bool b => some (.bool b)
  | .number n => n.map .number
  | .string s => s.map .string
  | .array items => if room = 0 then none else (ofRawItems? (room - 1) items).map .array
  | .object members =>
    if room = 0 then none
    else (ofRawMembers? (room - 1) members).map fun l => .object (StringMap.ofList l).toList

/-- The values of the items of a list. -/
def ofRawItems? (room : Nat) : List Raw → Option (List Json)
  | [] => some []
  | v :: rest =>
    match ofRaw? room v, ofRawItems? room rest with
    | some x, some l => some (x :: l)
    | _, _ => none

/-- The values of the members of an object, in the order of the text. -/
def ofRawMembers? (room : Nat) : List (Option String × Raw) → Option (List (String × Json))
  | [] => some []
  | (k, v) :: rest =>
    match k, ofRaw? room v, ofRawMembers? room rest with
    | some k, some x, some l => some ((k, x) :: l)
    | _, _, _ => none

end

mutual

/-- A value as it would be spelled. -/
def toRaw : Json → Raw
  | .null => .null
  | .bool b => .bool b
  | .number n => .number (some n)
  | .string s => .string (some s)
  | .array items => .array (toRawItems items)
  | .object members => .object (toRawMembers members)

/-- The items of a list as they would be spelled. -/
def toRawItems : List Json → List Raw
  | [] => []
  | v :: rest => toRaw v :: toRawItems rest

/-- The members of an object as they would be spelled. -/
def toRawMembers : List (String × Json) → List (Option String × Raw)
  | [] => []
  | (k, v) :: rest => (some k, toRaw v) :: toRawMembers rest

end

end Json

end DeployChecks
