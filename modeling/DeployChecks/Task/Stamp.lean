import DeployChecks.PhaseItem
import DeployChecks.Task.Name

/-!
# Task/Stamp — tasks from definitions

Stamping needs nothing but the definition, the item, the group, the headers that carry the trace
on, and a random number for the name.  Main definition: `TaskDefinition.stamp`.
-/

namespace DeployChecks

/-- **A new task** for a definition.  Its metadata is that of the item, with the headers over it. -/
def TaskDefinition.stamp (d : TaskDefinition) (group : CheckGroup) (item : PhaseItem)
    (headers : StringMap String) (draw : Nat) : Task where
  name := Task.nameFor group d.name draw
  ns := item.ns
  owner := item.ownerReference
  spec :=
    { definition := d.name
      checkType := group
      context := { item.taskContext group with metadata := item.metadata.union headers }
      runtime := d.spec.runtime
      parameters := d.spec.parameters
      secureParameters := d.spec.secureParameters
      retries := d.retries
      timeoutSeconds := d.timeoutSeconds }
  status := .fresh

end DeployChecks
