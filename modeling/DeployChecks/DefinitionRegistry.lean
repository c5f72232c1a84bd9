import DeployChecks.Keyed
import DeployChecks.Log.Record
import DeployChecks.TaskDefinition

/-!
# DefinitionRegistry — definitions by namespace and name

A definition is looked for in the namespace that asks, then in the namespace that all share.
Main definitions: `DefinitionRegistry`, `register`, `unregister`, `resolve`.
-/

namespace DeployChecks

/-- **Why a definition cannot be resolved.** -/
inductive ResolveError where
  /-- There is none, neither in the namespace nor in the shared one. -/
  | notFound (ns name : String)
  /-- The lookup failed. -/
  | lookup (text : String)
  deriving DecidableEq, Repr

namespace ResolveError

/-- The wording of an error. -/
def message : ResolveError → String
  | notFound ns name => s!"task definition {name} not found in namespace {ns}"
  | lookup text => s!"task definition lookup failed: {text}"

/-- The definition was looked for and is not there. -/
def isNotFound : ResolveError → Bool
  | notFound _ _ => true
  | lookup _ => false

end ResolveError

/-- **A registry of definitions.** -/
structure DefinitionRegistry where
  /-- The definitions under their keys. -/
  definitions : Keyed DefinitionKey TaskDefinition
  /-- The namespace that all share. -/
  defaultNamespace : String

namespace DefinitionRegistry

/-- The namespace that all share, unless another is set. -/
def standardNamespace : String := "keptn-lifecycle-toolkit-system"

/-- The registry without definitions. -/
def empty (defaultNamespace : String) : DefinitionRegistry := ⟨{}, defaultNamespace⟩

instance : Inhabited DefinitionRegistry := ⟨empty standardNamespace⟩

/-- The number of definitions. -/
def size (r : DefinitionRegistry) : Nat := r.definitions.size

/-- There is no definition. -/
def isEmpty (r : DefinitionRegistry) : Bool := r.size == 0

/-- **Register a definition** under its own key, over an earlier one. -/
def register (r : DefinitionRegistry) (d : TaskDefinition) : DefinitionRegistry :=
  { r with definitions := r.definitions.insert d.key d }

/-- **Unregister a definition**, and give it if there was one. -/
def unregister (r : DefinitionRegistry) (k : DefinitionKey) :
    Option TaskDefinition × DefinitionRegistry :=
  (r.definitions.find? k, { r with definitions := r.definitions.erase k })

/-- The definition under a key. -/
def find? (r : DefinitionRegistry) (k : DefinitionKey) : Option TaskDefinition :=
  r.definitions.find? k

/-- **Resolve a name** in a namespace. -/
def resolve (r : DefinitionRegistry) (name ns : String) : Except ResolveError TaskDefinition :=
  match (r.find? ⟨ns, name⟩).or (r.find? ⟨r.defaultNamespace, name⟩) with
  | some d => .ok d
  | none => .error (.notFound ns name)

/-! ## Log records -/

/-- The record of a registration. -/
def registerNote (d : TaskDefinition) : Log.Record :=
  Log.debug "Registering task definition" [("definition", .shown d.key.text)]

/-- The records of a resolution: one if the shared namespace is tried. -/
def resolveNotes (r : DefinitionRegistry) (name ns : String) : List Log.Record :=
  if (r.find? ⟨ns, name⟩).isSome then []
  else
    [Log.debug "Task definition not in item namespace, trying default namespace"
      [("definition", .text name), ("namespace", .text ns),
        ("fallback_namespace", .shown r.defaultNamespace)]]

end DefinitionRegistry

end DeployChecks
