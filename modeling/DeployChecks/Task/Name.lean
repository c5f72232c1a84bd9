import DeployChecks.CheckGroup
import DeployChecks.Text.Lowercase

/-!
# Task/Name — names for new tasks

A name is made of the tag of the group, the beginning of the definition's name and five random
digits, all in lower case.  Main definitions: `nameFor` and `splitSuffix?`.
-/

namespace DeployChecks

namespace Task

/-- How much of the definition's name goes into the name of a task. -/
def fragmentLength : Nat := 32

/-- **The number at the end of a name**, of five digits without a zero in front. -/
def suffixOf (draw : Nat) : Nat := draw % 90000 + 10000

/-- **The name of a new task**, for a random number `draw`. -/
def nameFor (group : CheckGroup) (definition : String) (draw : Nat) : String :=
  let fragment := String.ofList (definition.toList.take fragmentLength)
  Text.lowercase s!"{group.tag}-{fragment}-{suffixOf draw}"

/-- **A name without its number**: what stands before five digits at the end, a dash included. -/
def splitSuffix? (name : String) : Option (String × List Char) :=
  let cs := name.toList
  let head := cs.take (cs.length - 5)
  let digits := cs.drop (cs.length - 5)
  if head.getLast? = some '-' && digits.length = 5 && digits.all Char.isDigit
      && digits.head? ≠ some '0' then
    some (String.ofList head, digits)
  else none

/-- The name with other digits at its end; a name without digits stays. -/
def withSuffix (name suffix : String) : String :=
  match splitSuffix? name with
  | some (head, _) => head ++ suffix
  | none => name

end Task

end DeployChecks
