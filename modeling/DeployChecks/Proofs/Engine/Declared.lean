import DeployChecks.Proofs.Engine.Course

/-!
# Proofs/Engine/Declared — a visit does not see what else is declared

An item may declare other names for a group.  What a visit asks for, stamps and announces comes from
the rest of the item, so a pass over other names makes the same visits.  Main definition:
`PhaseItem.declaring`; main statements: `turn_declaring`, `reconcile_declaring`.
-/

namespace DeployChecks

namespace PhaseItem

/-- **The item that declares other names** for a group. -/
def declaring (item : PhaseItem) (group : CheckGroup) (names : List String) : PhaseItem :=
  match item, group with
  | app v, .pre => app { v with spec := { v.spec with preTasks := names } }
  | app v, .post => app { v with spec := { v.spec with postTasks := names } }
  | workload v, .pre => workload { v with spec := { v.spec with preTasks := names } }
  | workload v, .post => workload { v with spec := { v.spec with postTasks := names } }

variable (item : PhaseItem) (group : CheckGroup) (names : List String)

@[simp] theorem declared_declaring : (item.declaring group names).declared group = names := by
  cases item <;> cases group <;> rfl

@[simp] theorem statuses_declaring :
    (item.declaring group names).statuses group = item.statuses group := by
  cases item <;> cases group <;> rfl

@[simp] theorem ns_declaring : (item.declaring group names).ns = item.ns := by
  cases item <;> cases group <;> rfl

@[simp] theorem about_declaring (phase : Phase) (severity : Severity) (reason message : String)
    (now : Timestamp) :
    PhaseEvent.about (item.declaring group names) phase severity reason message now
      = .about item phase severity reason message now := by
  cases item <;> cases group <;> rfl

end PhaseItem

namespace Pass

/-- **The pass over other names** of the same item. -/
def declaring (p : Pass) (names : List String) : Pass :=
  { p with item := p.item.declaring p.group names }

/-- The entry that a visit of a name starts from. -/
def entry (p : Pass) (definition : String) : ItemStatus :=
  statusOrFresh definition (p.item.statuses p.group)

end Pass

namespace Engine

variable {σ τ : Type} (e : Engine σ τ) (p : Pass) (names : List String)

/-- **A turn is the same**, whatever else is declared. -/
theorem turn_declaring (prior : List ItemStatus) (definition : String) :
    e.turn (p.declaring names) prior definition = e.turn p prior definition := by
  obtain ⟨context, item, group⟩ := p
  cases item <;> cases group <;> rfl

theorem interrupted_declaring (definition : String) (i : Interruption)
    (statuses : List ItemStatus) :
    interrupted (σ := σ) (τ := τ) (p.declaring names) definition i statuses
      = interrupted p definition i statuses := by
  obtain ⟨context, item, group⟩ := p
  cases item <;> cases group <;> rfl

/-- The visits that are left are the same. -/
theorem visitAll_declaring (prior : List ItemStatus) (definitions : List String)
    (r : Reconciliation) (w : World σ τ) :
    e.visitAll (p.declaring names) prior r definitions w = e.visitAll p prior r definitions w := by
  induction definitions generalizing r w with
  | nil => rfl
  | cons definition rest ih =>
    rw [visitAll_cons, visitAll_cons]
    simp only [turn_declaring, interrupted_declaring, ih]

/-- **A pass over other names** makes their visits. -/
theorem reconcile_declaring (w : World σ τ) :
    e.reconcile (p.declaring names) w
      = e.visitAll p (p.item.statuses p.group) .empty names w := by
  rw [reconcile, visitAll_declaring, Pass.declaring, PhaseItem.declared_declaring,
    PhaseItem.statuses_declaring]

end Engine

end DeployChecks
