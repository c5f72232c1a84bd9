import DeployChecks.Proofs.Codec.Models

/-!
# Proofs/Codec/Survival — decoding undoes encoding

A value is written as the compact text of its JSON form.  The grammar reads that text back as the
form (`Json.parse_compact`), and the record reads the form back as the value, however its members
are rearranged (`Json.Reads.record`).  Main definition: `Json.Survives`; main statement:
`decoding_undoes_encoding`.
-/

namespace DeployChecks

namespace Json

/-- **A value survives being written and read.** -/
structure Survives {α : Type} [Codec α] (shape : Shape) (x : α) : Prop where
  /-- Its text is read as the value. -/
  decodes : decodeText α (encodeText x) = .ok x
  /-- So is every text that spells the same in another order and with members that are not known. -/
  rearranged : ∀ text v, Raw.parse? text = some v →
    Rearranged shape (Codec.encode x).toRaw v → decodeText α text = .ok x
  /-- Whatever text is read as the value, writing the value again changes nothing any more. -/
  stable : ∀ text, decodeText α text = .ok x →
    ∃ y, decodeText α (encodeText x) = .ok y ∧ y = x ∧ encodeText y = encodeText x

theorem Reads.survives {α : Type} [Codec α] {shape : Shape} {x : α}
    (read : Reads Codec.decode shape 0 (Codec.encode x) x) : Survives shape x := by
  have rearranged (text : String) (v : Raw) (parsed : Raw.parse? text = some v)
      (same : Rearranged shape (Codec.encode x).toRaw v) : decodeText α text = .ok x := by
    rw [decodeText, parsed]
    dsimp only
    rw [read.reads v same]
  have decodes : decodeText α (encodeText x) = .ok x :=
    rearranged _ _ (parse_compact read.integral) (rearranged_refl shape (Codec.encode x))
  exact ⟨decodes, rearranged, fun _ _ => ⟨x, decodes, rfl, rfl⟩⟩

end Json

open Json

/-- **Decoding undoes encoding**, for everything that is stored or sent: whatever the texts, times,
maps and numbers in it, and free JSON that is kept and nested no deeper than a text may be. -/
theorem decoding_undoes_encoding :
    (∀ s : ItemStatus, Survives ItemStatus.shape s) ∧
    (∀ s : PhaseStatuses, Survives PhaseStatuses.shape s) ∧
    (∀ v : AppVersion, Survives AppVersion.shape v) ∧
    (∀ v : WorkloadVersion, Survives WorkloadVersion.shape v) ∧
    (∀ s : StatusSummary, s.InRange → Survives StatusSummary.shape s) ∧
    (∀ r : SkipReason, Survives .plain r) ∧
    (∀ r : Reconciliation, r.summary.InRange → Survives Reconciliation.shape r) ∧
    (∀ d : TaskDefinition, d.spec.runtime.Kept (maxNesting - 2) →
      Survives TaskDefinition.shape d) ∧
    (∀ t : Task, t.spec.runtime.Kept (maxNesting - 2) → Survives Task.shape t) ∧
    (∀ e : PhaseEvent, Survives PhaseEvent.shape e) :=
  ⟨fun s => s.reads.survives, fun s => s.reads.survives, fun v => v.reads.survives,
    fun v => v.reads.survives, fun _ range => (StatusSummary.reads range).survives,
    fun r => r.reads.survives, fun _ range => (Reconciliation.reads range).survives,
    fun _ kept => (TaskDefinition.reads kept).survives, fun _ kept => (Task.reads kept).survives,
    fun e => e.reads.survives⟩

namespace Sample

/-- A definition with free JSON, an escape and a number. -/
def template : TaskDefinition :=
  ⟨"d", "n\u00e9\n", ⟨.array [.object [("a", .int (-5))]], {}, none, some 3, none⟩⟩

/-- The members of its spec, the other way round. -/
def specMembers : List (String × Json) :=
  [("retries", .int 3), ("parameters", .object []),
    ("runtime", .array [.object [("a", .int (-5))]])]

/-- Its own members, the other way round. -/
def members : List (String × Json) :=
  [("spec", .object (("x", .array [.null, .string "\""]) :: specMembers)),
    ("namespace", .string "n\u00e9\n"), ("name", .string "d")]

/-- The form of these members, each list of them after one that is not known. -/
def rearranged : Json := .object (("y", .null) :: members)

/-- The text of that form. -/
def rearrangedText : String :=
  "\x7b\"y\":null,\"spec\":\x7b\"x\":[null,\"\\\"\"],\"retries\":3,\"parameters\":\x7b\x7d," ++
    "\"runtime\":[\x7b\"a\":-5\x7d]\x7d,\"namespace\":\"n\u00e9\\n\",\"name\":\"d\"\x7d"

end Sample

open Sample

/-- **A definition is read from a rearranged text**, and from its own. -/
theorem decodeText_rearrangedText :
    decodeText TaskDefinition rearrangedText = .ok template ∧
      decodeText TaskDefinition (encodeText template) = .ok template := by
  obtain ⟨-, -, -, -, -, -, -, definition, -⟩ := decoding_undoes_encoding
  have kept : template.spec.runtime.Kept (maxNesting - 2) :=
    .array (List.forall_mem_singleton.2 (.object (List.pairwise_singleton _ _)
      (List.forall_mem_singleton.2 (.int (by decide) (by decide)))))
  have survives := definition template kept
  refine ⟨survives.rearranged rearrangedText rearranged.toRaw ?parsed ?same, survives.decodes⟩
  case parsed =>
    have spec : ∀ m ∈ specMembers, m.2.Integral := List.forall_mem_cons.2
      ⟨.int (by decide) (by decide), List.forall_mem_cons.2
        ⟨.object nofun, List.forall_mem_singleton.2 kept.integral⟩⟩
    have unknown : (Json.array [.null, .string "\""]).Integral :=
      .array (List.forall_mem_cons.2 ⟨.null, List.forall_mem_singleton.2 (.string _)⟩)
    have whole : rearranged.Integral := .object (List.forall_mem_cons.2
      ⟨.null, List.forall_mem_cons.2 ⟨.object (List.forall_mem_cons.2 ⟨unknown, spec⟩),
        List.forall_mem_cons.2 ⟨.string _, List.forall_mem_singleton.2 (.string _)⟩⟩⟩)
    rw [show rearrangedText = rearranged.compact from rfl, parse_compact whole]
  case same =>
    have backwards (m : Option String × Raw) (l : List (Option String × Raw)) :
        (m :: l).Perm (l.reverse ++ [m]) := List.reverse_cons ▸ (List.reverse_perm _).symm
    refine ⟨_, _, _, rfl, ?_, ?_, backwards (some "y", .null) (toRawMembers members)⟩
    · refine .cons ⟨_, rfl, rfl, rfl⟩ (.cons ⟨_, rfl, rfl, rfl⟩ (.cons ⟨_, rfl, rfl, ?_⟩ .nil))
      refine ⟨_, _, _, rfl, ?_, ?_, backwards (some "x", _) (toRawMembers specMembers)⟩
      · exact .cons ⟨_, rfl, rfl, rfl⟩ (.cons ⟨_, rfl, rfl, rfl⟩ (.cons ⟨_, rfl, rfl, rfl⟩ .nil))
      · exact List.forall_mem_singleton.2 ⟨"x", by decide, rfl⟩
    · exact List.forall_mem_singleton.2 ⟨"y", by decide, rfl⟩

end DeployChecks
