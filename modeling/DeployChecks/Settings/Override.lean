import DeployChecks.Settings.Tree
import DeployChecks.Toml.Number

/-!
# Settings/Override — what variables say

A variable whose name begins in the right way sets what the rest of its name tells.  Main
definitions: `Settings.variableSetting?`, `Settings.variableValue`, `Settings.ofVariables`.
-/

namespace DeployChecks

namespace Settings

/-- What the names of variables begin with, in small letters. -/
def variableStart : List Char := "lifecycle_tasks__".toList

/-- A point in place of each pair of low lines. -/
def splitLevels : List Char → List Char
  | [] => []
  | '_' :: '_' :: rest => '.' :: splitLevels rest
  | c :: rest => c :: splitLevels rest

/-- **The name of the setting** that a variable sets, if it sets one. -/
def variableSetting? (name : String) : Option String :=
  let cs := (Text.lowercase name).toList
  if variableStart.isPrefixOf cs then
    some (String.ofList (splitLevels (cs.drop variableStart.length)))
  else none

/-- **What the text of a variable says**: a truth value, an integer or a double if it reads as
one. -/
def variableValue (s : String) : Tree :=
  let word := Text.lowercase s
  if word = "true" then .bool true
  else if word = "false" then .bool false
  else
    match (Decimal.readInt? s).filter Toml.isWord, Decimal.read? s with
    | some n, _ => .int n
    | none, some x => .double x
    | none, none => .text s

/-- **What variables say**, in the order of the settings. -/
def ofVariables (env : StringMap String) : List (String × Tree) :=
  (StringMap.ofList (env.toList.filterMap fun e =>
    (variableSetting? e.1).map fun name => (name, variableValue e.2))).toList

end Settings

end DeployChecks
