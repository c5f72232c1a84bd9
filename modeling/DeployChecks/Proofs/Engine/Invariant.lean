import DeployChecks.Proofs.Engine.Course

/-!
# Proofs/Engine/Invariant — what every pass preserves

Between two turns the entries of a pass fall into those that are done and those still untouched; a
pass that is cut short hands both to the host.  An **invariant** speaks about these two lists and
the scene.  It has to survive one turn, and then something is left of it when the pass is over,
however that ends (`PassInvariant.left_ending`).  What it needs to know about the whole run may be
assumed of the calls, as long as it passes from a sequence of calls to its beginnings.
-/

namespace DeployChecks

/-- **The entries that a pass leaves to the host**: all of them, or those that can be stored. -/
def keptStatuses : Except PassError Reconciliation → List ItemStatus
  | .ok r => r.statuses
  | .error err => err.partialStatuses

namespace Scene

variable {σ τ α : Type} {s s₁ : Scene σ τ} {e : Engine σ τ}

theorem calls_grow_ask {c : Call} {x : Act σ (Option α)} {answer : Option α}
    (asked : s.ask e c x = (answer, s₁)) : s.calls <+: s₁.calls := by
  obtain h | h := s.calls_ask e asked <;> simp [h]

theorem calls_grow_sample {x : StateM σ α} {a : α} (drawn : s.sample x = (a, s₁)) :
    s.calls <+: s₁.calls := by
  obtain rfl := congrArg Prod.snd drawn
  exact List.prefix_refl _

theorem calls_grow_announceChange (p : Pass) (definition : String) (previous : Option TaskState)
    (current : TaskState) :
    s.calls <+: (s.announceChange e p definition previous current).calls := by
  unfold announceChange
  split
  · exact List.prefix_refl _
  · exact List.prefix_append _ _

end Scene

namespace Engine

variable {σ τ : Type} {e : Engine σ τ} {p : Pass} {prior : List ItemStatus}

/-! ## Calls are never taken back -/

theorem Creation.calls_grow {status : ItemStatus} {s s' : Scene σ τ}
    {result : Except Interruption Outcome} (creation : Creation e p status s result s') :
    s.calls <+: s'.calls := by
  cases creation with
  | unanswered resolved => exact Scene.calls_grow_ask resolved
  | unresolved resolved => exact Scene.calls_grow_ask resolved
  | dropped resolved drawn put =>
    exact ((Scene.calls_grow_ask resolved).trans (Scene.calls_grow_sample drawn)).trans
      (Scene.calls_grow_ask put)
  | refused resolved drawn put =>
    exact (((Scene.calls_grow_ask resolved).trans (Scene.calls_grow_sample drawn)).trans
      (Scene.calls_grow_ask put)).trans (List.prefix_append _ _)
  | created resolved drawn put =>
    exact (((Scene.calls_grow_ask resolved).trans (Scene.calls_grow_sample drawn)).trans
      (Scene.calls_grow_ask put)).trans (List.prefix_append _ _)

theorem Course.calls_grow {status : ItemStatus} {s s' : Scene σ τ}
    {result : Except Interruption Outcome} (course : Course e p status s result s') :
    s.calls <+: s'.calls := by
  cases course with
  | finished => exact List.prefix_refl _
  | unanswered _ _ fetched => exact Scene.calls_grow_ask fetched
  | unread _ _ fetched => exact Scene.calls_grow_ask fetched
  | read _ _ fetched =>
    refine (Scene.calls_grow_ask fetched).trans ?_
    rw [Scene.calls_refresh]
    exact List.prefix_append _ _
  | lost _ _ fetched _ creation =>
    refine ((Scene.calls_grow_ask fetched).trans ?_).trans creation.calls_grow
    rw [Scene.calls_lose]
    exact List.prefix_append _ _
  | bare _ _ creation => exact creation.calls_grow

theorem Turn.calls_grow {definition : String} {s s' : Scene σ τ}
    {result : Except Interruption Outcome} (turn : Turn e p prior definition s result s') :
    s.calls <+: s'.calls := by
  cases turn with
  | stopped look => obtain rfl := congrArg Prod.snd look; exact List.prefix_refl _
  | interrupted look course => obtain rfl := congrArg Prod.snd look; exact course.calls_grow
  | done look course =>
    obtain rfl := congrArg Prod.snd look
    exact course.calls_grow.trans (Scene.calls_grow_announceChange _ _ _ _)

theorem Turns.calls_grow {definitions : List String} {s s' : Scene σ τ} {os : List Outcome}
    (turns : Turns e p prior definitions s os s') : s.calls <+: s'.calls := by
  induction turns with
  | nil => exact List.prefix_refl _
  | cons turn _ ih => exact turn.calls_grow.trans ih

theorem Ending.calls_grow {r : Reconciliation} {definitions : List String} {s s' : Scene σ τ}
    {result : Except PassError Reconciliation}
    (ending : Ending e p prior r definitions s result s') : s.calls <+: s'.calls := by
  cases ending with
  | complete turns => exact turns.calls_grow
  | cut _ turns turn => exact turns.calls_grow.trans turn.calls_grow

/-! ## Definitions keep their places -/

theorem Creation.definition {status : ItemStatus} {s s' : Scene σ τ} {o : Outcome}
    (creation : Creation e p status s (.ok o) s') : o.status.definition = status.definition := by
  cases creation <;> rfl

theorem Course.definition {status : ItemStatus} {s s' : Scene σ τ} {o : Outcome}
    (course : Course e p status s (.ok o) s') : o.status.definition = status.definition := by
  cases course with
  | finished => rfl
  | read _ _ fetched => unfold Scene.refresh; dsimp only; split <;> rfl
  | lost _ _ _ _ creation => exact creation.definition
  | bare _ _ creation => exact creation.definition

end Engine

/-- The entry to start from is about the definition. -/
@[simp] theorem definition_statusOrFresh (definition : String) (prior : List ItemStatus) :
    (statusOrFresh definition prior).definition = definition := by
  unfold statusOrFresh
  cases found : findStatus definition prior with
  | none => rfl
  | some s => simpa using List.find?_some found

/-- What holds of every entry and of a fresh one holds of the entry to start from. -/
theorem statusOrFresh_of_forall {P : ItemStatus → Prop} {definition : String}
    {statuses : List ItemStatus} (all : ∀ x ∈ statuses, P x) (fresh : P (.fresh definition)) :
    P (statusOrFresh definition statuses) := by
  unfold statusOrFresh
  cases found : findStatus definition statuses with
  | none => exact fresh
  | some x => exact all x (List.mem_of_find?_eq_some found)

namespace Engine

variable {σ τ : Type} {e : Engine σ τ} {p : Pass} {prior : List ItemStatus}

theorem Turn.definition {definition : String} {s s' : Scene σ τ} {o : Outcome}
    (turn : Turn e p prior definition s (.ok o) s') : o.status.definition = definition := by
  cases turn with
  | done _ course => rw [course.definition, definition_statusOrFresh]

theorem Turns.definitions {definitions : List String} {s s' : Scene σ τ} {os : List Outcome}
    (turns : Turns e p prior definitions s os s') :
    os.map (·.status.definition) = definitions := by
  induction turns with
  | nil => rfl
  | cons turn _ ih => rw [List.map_cons, turn.definition, ih]

/-- **The host is handed one entry per definition, in order**, however the pass ends. -/
theorem Ending.definitions {definitions : List String} {s s' : Scene σ τ}
    {result : Except PassError Reconciliation}
    (ending : Ending e p prior .empty definitions s result s') :
    (keptStatuses result).map (·.definition) = definitions := by
  cases ending with
  | complete turns =>
    simpa [keptStatuses, Reconciliation.statuses_foldl_record, Reconciliation.empty,
      Function.comp_def] using turns.definitions
  | cut split turns turn =>
    subst split
    have := turns.definitions
    simp [keptStatuses, Reconciliation.empty, Function.comp_def, this]

/-! ## Invariants of passes -/

/-- **An invariant of passes.** -/
structure PassInvariant (e : Engine σ τ) (p : Pass) (prior : List ItemStatus) where
  /-- What may be assumed of the calls. -/
  Good : List Call → Prop
  /-- The invariant, of the entries that are done, those that are untouched, and the scene. -/
  Holds : List ItemStatus → List ItemStatus → Scene σ τ → Prop
  /-- What is left of it when the pass is over. -/
  Left : List ItemStatus → List ItemStatus → Scene σ τ → Prop
  /-- The beginning of good calls is good. -/
  good_of_earlier : ∀ {l l' : List Call}, l <+: l' → Good l' → Good l
  /-- A turn with an outcome preserves it. -/
  step : ∀ {done rest : List ItemStatus} {definition : String} {s s' : Scene σ τ} {o : Outcome},
    Good s'.calls → Holds done (statusOrFresh definition prior :: rest) s →
      Turn e p prior definition s (.ok o) s' → Holds (done ++ [o.status]) rest s'
  /-- A pass that comes to its end leaves it. -/
  finish : ∀ {done : List ItemStatus} {s : Scene σ τ}, Holds done [] s → Left done [] s
  /-- So does a turn that stops the pass. -/
  stop : ∀ {done rest : List ItemStatus} {definition : String} {s s' : Scene σ τ}
    {i : Interruption}, Good s'.calls → Holds done (statusOrFresh definition prior :: rest) s →
      Turn e p prior definition s (.error i) s' →
        Left done (statusOrFresh definition prior :: rest) s'

namespace PassInvariant

variable (I : PassInvariant e p prior)

theorem holds_turns {definitions : List String} {s s' : Scene σ τ} {os : List Outcome}
    (turns : Turns e p prior definitions s os s') (good : I.Good s'.calls)
    {done : List ItemStatus} (rest : List ItemStatus)
    (start : I.Holds done (definitions.map (statusOrFresh · prior) ++ rest) s) :
    I.Holds (done ++ os.map (·.status)) rest s' := by
  induction turns generalizing done with
  | nil => simpa using start
  | cons turn turns ih =>
    have next := I.step (I.good_of_earlier turns.calls_grow good) start turn
    simpa using ih good next

/-- **What is left of an invariant after a pass**, however it ends. -/
theorem left_ending {definitions : List String} {s s' : Scene σ τ}
    {result : Except PassError Reconciliation}
    (ending : Ending e p prior .empty definitions s result s') (good : I.Good s'.calls)
    (start : I.Holds [] (definitions.map (statusOrFresh · prior)) s) :
    ∃ done rest, keptStatuses result = done ++ rest ∧ (∀ r, result = .ok r → rest = []) ∧
      I.Left done rest s' := by
  cases ending with
  | @complete os _ turns =>
    refine ⟨os.map (·.status), [], ?_, fun _ _ => rfl, ?_⟩
    · simp [keptStatuses, Reconciliation.statuses_foldl_record, Reconciliation.empty]
    · have reached := I.holds_turns turns good [] (by simpa using start)
      rw [List.nil_append] at reached
      exact I.finish reached
  | @cut before definition after os s₁ _ i split turns turn =>
    subst split
    refine ⟨os.map (·.status), (definition :: after).map (statusOrFresh · prior), ?_, nofun, ?_⟩
    · simp [keptStatuses, Reconciliation.empty]
    · have reached := I.holds_turns turns (I.good_of_earlier turn.calls_grow good)
        ((definition :: after).map (statusOrFresh · prior)) (by simpa using start)
      rw [List.nil_append] at reached
      exact I.stop good reached turn

end PassInvariant

end Engine

end DeployChecks
