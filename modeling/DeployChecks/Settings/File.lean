import DeployChecks.Json.Parser
import DeployChecks.Settings.Tree
import DeployChecks.Toml.Document

/-!
# Settings/File — what a file says

What settings need of a file is only what it says: named settings, in the order in which they are
laid.  How that is found out, in which formats and under which names, is left open (`Readable`).
`File.read?` is one way to do it, for files of two formats.  Main definitions: `Settings.Readable`,
`Settings.File`.
-/

namespace DeployChecks

namespace Settings

/-- **What is read as a file of settings.** -/
class Readable (φ : Type) where
  /-- The named settings that it holds; nothing if it cannot be read. -/
  read? : φ → Option (List (String × Tree))

/-- **Two formats of files.** -/
inductive Format where
  /-- Lines of names and values. -/
  | toml
  /-- One value. -/
  | json
  deriving DecidableEq, Repr

/-- The format of the files whose name ends so, if it is one of the two. -/
def Format.ofExtension? (extension : String) : Option Format :=
  if extension = "toml" then some .toml else if extension = "json" then some .json else none

/-- **A file**: how its name ends, and what it holds if it exists. -/
structure File where
  /-- The end of its name, after the point. -/
  extension : String
  /-- What it holds. -/
  content : Option String
  deriving DecidableEq, Repr

mutual

/-- The tree of a value on a line. -/
def ofToml : Toml.Value → Tree
  | .text s => .text s
  | .number (.int n) => .int n
  | .number (.double x) => .double x
  | .bool b => .bool b
  | .moment m => .text m.write
  | .array items => .list (ofTomlItems items)
  | .table members => .table (ofTomlMembers members)

/-- The trees of items. -/
def ofTomlItems : List Toml.Value → List Tree
  | [] => []
  | v :: rest => ofToml v :: ofTomlItems rest

/-- The trees of members. -/
def ofTomlMembers : List (String × Toml.Value) → List (String × Tree)
  | [] => []
  | (name, v) :: rest => (name, ofToml v) :: ofTomlMembers rest

end

mutual

/-- The tree of a JSON value.  An integer beyond 64 bits with sign becomes a double. -/
def ofJson : Json → Tree
  | .null => .null
  | .bool b => .bool b
  | .number (.int n) => if Toml.isWord n then .int n else .double (.ofInt n)
  | .number (.double x) => .double x
  | .string s => .text s
  | .array items => .list (ofJsonItems items)
  | .object members => .table (ofJsonMembers members)

/-- The trees of items. -/
def ofJsonItems : List Json → List Tree
  | [] => []
  | v :: rest => ofJson v :: ofJsonItems rest

/-- The trees of members. -/
def ofJsonMembers : List (String × Json) → List (String × Tree)
  | [] => []
  | (name, v) :: rest => (name, ofJson v) :: ofJsonMembers rest

end

/-- **What a text says** in a format: named settings. -/
def Format.read? (f : Format) (s : String) : Option (List (String × Tree)) :=
  match f with
  | toml => (Toml.parse? s).map ofTomlMembers
  | json =>
    match Json.parse? s with
    | some (.object members) => some (ofJsonMembers members)
    | _ => none

/-- **What a file says**, if it exists, has one of the two formats and is well formed. -/
def File.read? (f : File) : Option (List (String × Tree)) :=
  match Format.ofExtension? f.extension, f.content with
  | some format, some s => format.read? s
  | _, _ => none

instance : Readable File := ⟨File.read?⟩

end Settings

end DeployChecks
