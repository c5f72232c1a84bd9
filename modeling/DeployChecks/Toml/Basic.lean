import DeployChecks.Toml.Moment
import DeployChecks.Toml.Number

/-!
# Toml/Basic — values and open tables

A value is finished where it is read; a table of a document stays open and grows with the lines
that follow.  Names keep the order in which they came, since the first name of a table can tell
that the table stands for a moment.  Main definitions: `Toml.Value`, `Toml.Node`, the ways in which
a document adds to a table (`within`, `openTable`, `openSeries`, `assign`), and `Value.settle?`.
-/

namespace DeployChecks

namespace Toml

/-- **A value.** -/
inductive Value where
  /-- A text. -/
  | text (s : String)
  /-- A number. -/
  | number (n : Number)
  /-- A truth value. -/
  | bool (b : Bool)
  /-- A date or time. -/
  | moment (m : Moment)
  /-- A list. -/
  | array (items : List Value)
  /-- Named values. -/
  | table (members : List (String × Value))

instance : Inhabited Value := ⟨.bool false⟩

/-- **What brought a table about.** -/
inductive Origin where
  /-- It is part of the path of a header. -/
  | implied
  /-- It is part of a dotted name. -/
  | dotted
  /-- It has a header of its own. -/
  | headed
  deriving DecidableEq, Repr

/-- **A part of a document.** -/
inductive Node where
  /-- A finished value. -/
  | leaf (v : Value)
  /-- A table that can grow. -/
  | table (origin : Origin) (members : List (String × Node))
  /-- A list of tables, the last of which can grow. -/
  | series (tables : List (List (String × Node)))

instance : Inhabited Node := ⟨.leaf default⟩

/-- The named parts of a table. -/
abbrev Members := List (String × Node)

/-! ## Growth -/

/-- Put a part under its name, in the place of the one that was there, else at the end. -/
def Members.put (name : String) (node : Node) : Members → Members
  | [] => [(name, node)]
  | e :: rest => if e.1 = name then (name, node) :: rest else e :: Members.put name node rest

/-- Change the last of some tables. -/
def changeLast (change : Members → Option Members) : List Members → Option (List Members)
  | [] => none
  | [m] => (change m).map fun m => [m]
  | m :: rest => (changeLast change rest).map (m :: ·)

/-- **A change within the table that a header names.**  Tables on the way come about as needed; of
a list of tables the last is meant. -/
def within (change : Members → Option Members) : List String → Members → Option Members
  | [], m => change m
  | name :: rest, m =>
    match m.lookup name with
    | none => (within change rest []).map fun inner => m.put name (.table .implied inner)
    | some (.table origin inner) =>
      (within change rest inner).map fun inner => m.put name (.table origin inner)
    | some (.series tables) =>
      (changeLast (within change rest) tables).map fun tables => m.put name (.series tables)
    | some (.leaf _) => none

/-- **A header of a table** of this name: there is no such table yet, or only on the way to
others, and then it moves to the end. -/
def openTable (name : String) (m : Members) : Option Members :=
  match m.lookup name with
  | none => some (m.put name (.table .headed []))
  | some (.table .implied inner) =>
    some (m.filter (fun e => e.1 ≠ name) ++ [(name, .table .headed inner)])
  | some _ => none

/-- **A header of one more table** of a list of this name. -/
def openSeries (name : String) (m : Members) : Option Members :=
  match m.lookup name with
  | none => some (m.put name (.series [[]]))
  | some (.series tables) => some (m.put name (.series (tables ++ [[]])))
  | some _ => none

/-- **A line that gives a value a name**, below the tables that the dotted name passes.  The name is
new, a table with a header is not entered, and the innermost one owes its being to dotted names. -/
def assign (name : String) (v : Value) : List String → Members → Option Members
  | [], m => if (m.lookup name).isSome then none else some (m.put name (.leaf v))
  | step :: rest, m =>
    match m.lookup step with
    | none => (assign name v rest []).map fun inner => m.put step (.table .dotted inner)
    | some (.table origin inner) =>
      if origin = .headed || (rest.isEmpty && origin ≠ .dotted) then none
      else (assign name v rest inner).map fun inner => m.put step (.table origin inner)
    | some (.series tables) =>
      if rest.isEmpty then none
      else (changeLast (assign name v rest) tables).map fun tables => m.put step (.series tables)
    | some (.leaf _) => none

/-! ## Completion -/

mutual

/-- **The value of a part** when nothing more is added. -/
def Node.value : Node → Value
  | .leaf v => v
  | .table _ members => .table (memberValues members)
  | .series tables => .array (tableValues tables)

/-- The values of named parts. -/
def memberValues : List (String × Node) → List (String × Value)
  | [] => []
  | (name, node) :: rest => (name, node.value) :: memberValues rest

/-- The values of tables. -/
def tableValues : List (List (String × Node)) → List Value
  | [] => []
  | m :: rest => .table (memberValues m) :: tableValues rest

end

/-! ## Moments in tables -/

/-- The reserved name: a table that begins with it stands for the moment that its text tells. -/
def momentName : String := "$__toml_private_datetime"

/-- What a table holds under the reserved name, if it begins with it. -/
def reserved? : List (String × Value) → Option Value
  | [] => none
  | (name, v) :: _ => if name = momentName then some v else none

/-- The moment that a text tells. -/
def Value.moment? : Value → Option Moment
  | text s => Moment.ofText? s
  | _ => none

mutual

/-- **A value in which no table stands for a moment any more**; none if a table should and does not
tell one. -/
def Value.settle? : Value → Option Value
  | .table members =>
    match reserved? members with
    | some v => v.moment?.map .moment
    | none => (settleMembers? members).map .table
  | .array items => (settleItems? items).map .array
  | v => some v

/-- Named values in which no table stands for a moment. -/
def settleMembers? : List (String × Value) → Option (List (String × Value))
  | [] => some []
  | (name, v) :: rest =>
    v.settle?.bind fun v => (settleMembers? rest).map ((name, v) :: ·)

/-- Items in which no table stands for a moment. -/
def settleItems? : List Value → Option (List Value)
  | [] => some []
  | v :: rest => v.settle?.bind fun v => (settleItems? rest).map (v :: ·)

end

end Toml

end DeployChecks
