import DeployChecks.Settings.Tree
import DeployChecks.Toml.Number

/-!
# Settings/Key — names that lead into groups

A name may say on which way a setting is reached: a point enters a group, a number in brackets a
list.  A name of another form stands for itself.  Main definitions: `Settings.Key`, `Key.read`,
`Tree.assign`.
-/

namespace DeployChecks

namespace Settings

/-- **A step into a group or a list.** -/
inductive Step where
  /-- The member of a name. -/
  | member (name : String)
  /-- The item of a number, from the end if it is below zero. -/
  | item (n : Int)
  deriving DecidableEq, Repr

/-- **A way to a setting**: a first name and further steps. -/
structure Key where
  /-- The outermost name. -/
  first : String
  /-- The steps after it. -/
  steps : List Step
  deriving DecidableEq, Repr

/-! ## Reading -/

/-- The character may stand in a name on the way. -/
def isNameChar (c : Char) : Bool := c.isAlphanum || c = ' ' || c = '_' || c = '-'

/-- The number within brackets. -/
def readIndex? (cs : List Char) : Option Int :=
  let gap (c : Char) : Bool := c = ' ' || c = '\t'
  let inner := ((cs.dropWhile gap).reverse.dropWhile gap).reverse
  match inner with
  | '+' :: _ => none
  | inner =>
    (Decimal.readInt? (String.ofList inner)).bind fun n =>
      if Toml.isWord n then some n else none

/-- The steps after the first name.  As many steps are left at most as there are characters. -/
def readSteps? : Nat → List Char → Option (List Step)
  | _, [] => some []
  | 0, _ => none
  | fuel + 1, '.' :: rest =>
    let r := rest.span isNameChar
    if r.1.isEmpty then none
    else (readSteps? fuel r.2).map (.member (String.ofList r.1) :: ·)
  | fuel + 1, '[' :: rest =>
    match rest.span (· ≠ ']') with
    | (inner, ']' :: rest) =>
      (readIndex? inner).bind fun n => (readSteps? fuel rest).map (.item n :: ·)
    | _ => none
  | _ + 1, _ => none

/-- **The way that a name stands for.** -/
def Key.read (s : String) : Key :=
  let r := s.toList.span isNameChar
  if r.1.isEmpty then ⟨s, []⟩
  else
    match readSteps? r.2.length r.2 with
    | some steps => ⟨String.ofList r.1, steps⟩
    | none => ⟨s, []⟩

/-! ## Assignment -/

namespace Tree

/-- The place of a number in a list of some length. -/
def place (n : Int) (length : Nat) : Nat := if 0 ≤ n then n.toNat else length - n.natAbs

/-- Replace the item at a place of a list, made longer as needed. -/
def setItem (i : Nat) (v : Tree) (l : List Tree) : List Tree :=
  (l ++ List.replicate (i + 1 - l.length) Tree.null).set i v

/-- **Lay a setting over a tree** at the end of some steps.  What is on the way and cannot be
entered gives place to a group or a list. -/
def assignSteps (v : Tree) : List Step → Tree → Tree
  | [], group => group.overlay v
  | [.member name], group => group.put name v
  | [.item n], group =>
    let l := group.items
    .list (setItem (place n l.length) v l)
  | .member name :: rest, group =>
    let name := Text.lowercase name
    let m := group.members
    let inner := assignSteps v rest ((m.lookup name).getD .null)
    .table (StringMap.insertSorted name inner m)
  | .item n :: rest, group =>
    let l := group.items
    let i := place n l.length
    .list (setItem i (assignSteps v rest (l.getD i .null)) l)

/-- **Lay a setting over a tree** under a key. -/
def assign (group : Tree) (k : Key) (v : Tree) : Tree :=
  assignSteps v (.member k.first :: k.steps) group

/-- Lay settings over a tree, each under the key that its name stands for. -/
def assignAll (group : Tree) (l : List (String × Tree)) : Tree :=
  l.foldl (fun group e => group.assign (.read e.1) e.2) group

end Tree

end Settings

end DeployChecks
