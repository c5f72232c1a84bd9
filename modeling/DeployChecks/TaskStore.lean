import DeployChecks.Keyed
import DeployChecks.Task

/-!
# TaskStore — tasks held in memory

One task per namespace and name.  The calls that a pass makes are counted, failed ones too.  Main
definitions: `StoreError`, `TaskStore` with `get`, `create`, `report`, `remove`.
-/

namespace DeployChecks

/-- **Why a call of a store fails.** -/
inductive StoreError where
  /-- There is no such task. -/
  | notFound (ns name : String)
  /-- There is such a task already. -/
  | alreadyExists (ns name : String)
  /-- The store cannot be reached. -/
  | unavailable (text : String)
  /-- The store refuses. -/
  | request (text : String)
  deriving DecidableEq, Repr

namespace StoreError

/-- The wording of an error. -/
def message : StoreError → String
  | notFound ns name => s!"task {ns}/{name} not found"
  | alreadyExists ns name => s!"task {ns}/{name} already exists"
  | unavailable text => s!"object store unavailable: {text}"
  | request text => s!"object store request failed: {text}"

/-- The task was looked for and is not there. -/
def isNotFound : StoreError → Bool
  | notFound _ _ => true
  | alreadyExists _ _ | unavailable _ | request _ => false

end StoreError

/-- **A store of tasks.** -/
structure TaskStore where
  /-- The tasks under their keys. -/
  tasks : Keyed TaskKey Task
  /-- How often a task was asked for.  The count stands for a 64-bit one, as long as it stays below
  `UInt64.size`. -/
  getCalls : Nat
  /-- How often a task was put in; it stays below `UInt64.size` too. -/
  createCalls : Nat

namespace TaskStore

/-- The store without tasks. -/
def empty : TaskStore := ⟨{}, 0, 0⟩

instance : Inhabited TaskStore := ⟨empty⟩

/-- The number of tasks. -/
def size (s : TaskStore) : Nat := s.tasks.size

/-- There is no task. -/
def isEmpty (s : TaskStore) : Bool := s.size == 0

/-- The task under a key, without counting the call. -/
def peek (s : TaskStore) (k : TaskKey) : Option Task := s.tasks.find? k

/-- **Ask for a task.** -/
def get (s : TaskStore) (k : TaskKey) : Except StoreError Task × TaskStore :=
  let answer := match s.peek k with
    | some t => .ok t
    | none => .error (.notFound k.ns k.name)
  (answer, { s with getCalls := s.getCalls + 1 })

/-- **Put a new task in.** -/
def create (s : TaskStore) (t : Task) : Except StoreError Task × TaskStore :=
  let s := { s with createCalls := s.createCalls + 1 }
  if (s.peek t.key).isSome then (.error (.alreadyExists t.ns t.name), s)
  else (.ok t, { s with tasks := s.tasks.insert t.key t })

/-- **Report on a task**; tells whether there is one. -/
def report (s : TaskStore) (k : TaskKey) (state : TaskState) (message : String)
    (now : Timestamp) : Bool × TaskStore :=
  match s.peek k with
  | some t =>
    let t := { t with status := t.status.report state message now }
    (true, { s with tasks := s.tasks.insert k t })
  | none => (false, s)

/-- **Remove a task**, and give it if there was one. -/
def remove (s : TaskStore) (k : TaskKey) : Option Task × TaskStore :=
  (s.peek k, { s with tasks := s.tasks.erase k })

/-- The order of keys: by namespace, then by name. -/
def keyLe (a b : TaskKey) : Bool := a.ns < b.ns || (a.ns = b.ns && a.name ≤ b.name)

/-- **The tasks of a definition**, in the order of their keys. -/
def ofDefinition (s : TaskStore) (definition : String) : List Task :=
  (s.tasks.values.filter fun t => t.spec.definition = definition).mergeSort
    fun a b => keyLe a.key b.key

end TaskStore

end DeployChecks
