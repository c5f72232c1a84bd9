import DeployChecks.Decimal.Layout
import DeployChecks.Decimal.Reading
import DeployChecks.StringMap
import DeployChecks.Text.Lowercase

/-!
# Settings/Tree — settings before they have types

What files and variables say is first gathered in one tree, later layers over earlier ones; then
each setting is read from it as the type that it has.  Main definitions: `Settings.Tree`,
`Tree.overlay`, and the readings `bool?`, `count?`, `double?`, `text?`.
-/

namespace DeployChecks

namespace Settings

/-- **A setting without a type**, or a group of them. -/
inductive Tree where
  /-- Nothing. -/
  | null
  /-- A truth value. -/
  | bool (b : Bool)
  /-- An integer. -/
  | int (n : Int)
  /-- A double. -/
  | double (x : Binary64)
  /-- A text. -/
  | text (s : String)
  /-- A list. -/
  | list (items : List Tree)
  /-- A group. -/
  | table (members : List (String × Tree))

instance : Inhabited Tree := ⟨.null⟩

namespace Tree

/-- The members of a group; anything else has none. -/
def members : Tree → List (String × Tree)
  | table m => m
  | _ => []

/-- The items of a list; anything else has none. -/
def items : Tree → List Tree
  | list l => l
  | _ => []

/-! ## Layers -/

mutual

/-- **One layer over another.**  A group is laid over member by member, whatever the case of their
names, and a group without members changes nothing; anything else replaces what is below. -/
def overlay (below : Tree) : Tree → Tree
  | .table [] => below
  | .table (e :: rest) => .table (membersOverlay below.members (e :: rest))
  | v => v

/-- Members laid over others one after the other. -/
def membersOverlay (below : List (String × Tree)) : List (String × Tree) → List (String × Tree)
  | [] => below
  | (name, v) :: rest =>
    let name := Text.lowercase name
    let under := (below.lookup name).getD (.table [])
    membersOverlay (StringMap.insertSorted name (overlay under v) below) rest

end

/-- Lay a setting over the member of a group. -/
def put (group : Tree) (name : String) (v : Tree) : Tree :=
  .table (membersOverlay group.members [(name, v)])

/-! ## Readings -/

/-- The truth value that a word stands for. -/
def wordBool? (s : String) : Option Bool :=
  let word := Text.lowercase s
  if word = "true" || word = "on" || word = "yes" then some true
  else if word = "false" || word = "off" || word = "no" then some false
  else none

/-- **Read as a truth value**: of numbers only zero is false. -/
def bool? : Tree → Option Bool
  | bool b => some b
  | int n => some (n ≠ 0)
  | double x => some (!x.isZero)
  | text s => if s = "1" then some true else if s = "0" then some false else wordBool? s
  | _ => none

/-- The greatest count of a word of 64 bits. -/
def maxCount : Nat := UInt64.size - 1

/-- **Read as a count**: doubles are rounded, negative integers refused. -/
def count? : Tree → Option Nat
  | bool b => some b.toNat
  | int n => if n < 0 then none else some n.toNat
  | double x => some (x.toCount maxCount)
  | text s =>
    match wordBool? s with
    | some b => some b.toNat
    | none => (Decimal.readCount? s).bind fun n => if n ≤ maxCount then some n else none
  | _ => none

/-- **Read as a double.** -/
def double? : Tree → Option Binary64
  | bool b => some (.ofInt b.toNat)
  | int n => some (.ofInt n)
  | double x => some x
  | text s =>
    match wordBool? s with
    | some b => some (.ofInt b.toNat)
    | none => Decimal.read? s
  | _ => none

/-- **Read as a text**: what is none is written as one. -/
def text? : Tree → Option String
  | bool b => some (if b then "true" else "false")
  | int n => some (toString n)
  | double x => some (Decimal.plain.write x)
  | text s => some s
  | _ => none

end Tree

end Settings

end DeployChecks
