import DeployChecks.Proofs.Rounds.Basic

/-!
# Proofs/Rounds/Frozen — a finished entry stays as it is

Once the entry of a definition is finished, no round changes it as long as the definition is
declared, whatever becomes of the task, the definitions and the order of the names, and however the
passes end.  A round does not even look: it calls nothing about the definition, spans and events
included, and lists it nowhere.  Main definition: `Round.Spares`; main statement:
`finished_entries_are_frozen`.
-/

namespace DeployChecks

/-! ## What a result lists -/

/-- The outcome is the first terminal observation of a task. -/
def Outcome.isCompletion : Outcome → Bool
  | refreshed _ completed => completed
  | unchanged _ | created _ | skipped _ _ => false

/-- The names of the tasks that a pass saw finished first; none, if it was cut short. -/
def completedNames : Except PassError Reconciliation → List String
  | .ok r => r.completed
  | .error _ => []

namespace Reconciliation

/-- **A name is listed** as created, completed or skipped. -/
def Lists (r : Reconciliation) (definition : String) : Prop :=
  definition ∈ r.created ∨ definition ∈ r.completed ∨ definition ∈ r.skipped.map (·.definition)

theorem not_lists_empty (definition : String) : ¬ empty.Lists definition := by
  simp [Lists, empty]

/-- What an outcome adds to the lists is its own name, and a name that was left alone adds
nothing. -/
theorem lists_record {r : Reconciliation} {o : Outcome} {definition : String}
    (lists : (r.record o).Lists definition) :
    r.Lists definition ∨ (o.status.definition = definition ∧ o ≠ .unchanged o.status) := by
  cases o with
  | unchanged x => exact .inl lists
  | refreshed x completed =>
    cases completed with
    | false => exact .inl lists
    | true =>
      simp only [Lists, record, if_true, List.mem_append, List.mem_singleton] at lists ⊢
      grind [Outcome.status]
  | created x | skipped x reason =>
    simp only [Lists, record, List.mem_append, List.mem_singleton, List.map_append, List.map_cons,
      List.map_nil] at lists ⊢
    grind [Outcome.status]

/-- A name is listed for an outcome that is about it. -/
theorem exists_outcome_of_lists {definition : String} {os : List Outcome} {r : Reconciliation}
    (lists : (os.foldl record r).Lists definition) :
    r.Lists definition ∨
      ∃ o ∈ os, o.status.definition = definition ∧ o ≠ .unchanged o.status := by
  induction os generalizing r with
  | nil => exact .inl lists
  | cons o os ih =>
    obtain listed | ⟨o', mem, about⟩ := ih lists
    · obtain listed | about := lists_record listed
      · exact .inl listed
      · exact .inr ⟨o, List.mem_cons_self, about⟩
    · exact .inr ⟨o', List.mem_cons_of_mem _ mem, about⟩

@[simp] theorem completed_record (r : Reconciliation) (o : Outcome) :
    (r.record o).completed
      = r.completed ++ if o.isCompletion then [o.status.definition] else [] := by
  cases o with
  | refreshed x completed => cases completed <;> simp [record, Outcome.isCompletion, Outcome.status]
  | _ => simp [record, Outcome.isCompletion]

/-- The names are listed as completed in the order of the outcomes. -/
theorem completed_foldl_record (os : List Outcome) (r : Reconciliation) :
    (os.foldl record r).completed
      = r.completed ++ (os.filter (·.isCompletion)).map (·.status.definition) := by
  induction os generalizing r with
  | nil => simp
  | cons o os ih => cases h : o.isCompletion <;> simp [ih, h]

end Reconciliation

/-! ## One turn -/

namespace Engine

variable {σ τ : Type} {e : Engine σ τ} {p : Pass} {prior : List ItemStatus} {definition : String}
  {s s' : Scene σ τ}

/-- **A turn of a finished entry** leaves the entry, and calls nothing. -/
theorem Turn.of_terminal {result : Except Interruption Outcome}
    (turn : Turn e p prior definition s result s')
    (terminal : (statusOrFresh definition prior).isTerminal = true) :
    (∀ o, result = .ok o → o = .unchanged (statusOrFresh definition prior)) ∧
      s'.calls = s.calls := by
  cases turn with
  | stopped look =>
    obtain rfl := congrArg Prod.snd look
    exact ⟨fun o same => absurd same (by simp), rfl⟩
  | interrupted look course =>
    obtain ⟨⟨⟩, -⟩ := course.eq_of_terminal terminal
  | done look course =>
    obtain rfl := congrArg Prod.snd look
    obtain ⟨⟨⟩, rfl⟩ := course.eq_of_terminal terminal
    refine ⟨fun o same => (Except.ok.inj same).symm, ?_⟩
    have same : (findStatus definition prior).map (·.state)
        = some (statusOrFresh definition prior).state := by
      rw [findStatus_of_terminal terminal, Option.map_some]
    rw [Scene.announceChange, show (Outcome.unchanged (statusOrFresh definition prior)).status.state
      = (statusOrFresh definition prior).state from rfl, if_pos same, Scene.calls_look]

/-- **The first terminal observation** leaves a finished entry. -/
theorem Turn.isTerminal_of_completion {o : Outcome} (turn : Turn e p prior definition s (.ok o) s')
    (completion : o.isCompletion = true) : o.status.isTerminal = true := by
  have created {status : ItemStatus} {s s' : Scene σ τ} {o : Outcome}
      (creation : Creation e p status s (.ok o) s') : o.isCompletion = false := by
    cases creation <;> rfl
  cases turn with
  | done look course =>
    cases course with
    | finished => cases completion
    | @read _ t live task fetched =>
      unfold Scene.refresh at completion ⊢
      dsimp only at completion ⊢
      split at completion
      · next completes =>
        rw [if_pos completes]
        exact (Bool.and_eq_true_iff.1 completes).1
      · cases completion
    | lost _ _ _ _ creation => exact absurd completion (by simp [created creation])
    | bare _ _ creation => exact absurd completion (by simp [created creation])

/-- What stands in the trail of a pass comes from a turn. -/
theorem exists_turn_of_mem_trail {definitions : List String} {w : World σ τ}
    {x : String × List Call} (mem : x ∈ e.trail p prior definitions w) :
    ∃ (s s' : Scene σ τ) (result : Except Interruption Outcome),
      Turn e p prior x.1 s result s' ∧ x.2 = s'.calls.drop s.calls.length := by
  induction definitions generalizing w with
  | nil => exact absurd mem List.not_mem_nil
  | cons definition rest ih =>
    have turn := e.turn_turn p prior definition w
    rw [trail, List.mem_cons] at mem
    obtain rfl | mem := mem
    · exact ⟨_, _, _, turn, rfl⟩
    · generalize e.turn p prior definition w = t at mem
      obtain ⟨result, w₁⟩ := t
      cases result with
      | ok o => exact ih mem
      | error i => exact absurd mem List.not_mem_nil

end Engine

/-! ## One round -/

namespace Round

variable {σ τ : Type} {r : Round σ τ} {group : CheckGroup} {kept : List ItemStatus}
  {definition : String} {entry : ItemStatus}

/-- **A round spares an entry**: it leaves the entry where its name is declared, calls nothing about
it, and lists it nowhere. -/
structure Spares (r : Round σ τ) (group : CheckGroup) (kept : List ItemStatus)
    (entry : ItemStatus) : Prop where
  /-- The entry stands where the name is declared. -/
  place : ∀ i : Nat, (r.declared group)[i]? = some entry.definition →
    (r.stored group kept)[i]? = some entry
  /-- Nothing is called about it: no store, no resolver, no span, no event. -/
  quiet : r.callsAbout group kept entry.definition = []
  /-- The result lists it nowhere. -/
  unlisted : ∀ result, r.result group kept = .ok result → ¬ result.Lists entry.definition

/-- A finished entry is the only one about its definition that a round stores. -/
theorem eq_of_mem_stored (found : findStatus definition kept = some entry)
    (terminal : entry.isTerminal = true) :
    ∀ x ∈ r.stored group kept, x.definition = definition → x = entry := by
  have start : statusOrFresh definition kept = entry := by rw [statusOrFresh, found]; rfl
  refine (r.ending group kept).forall_kept (P := fun x => x.definition = definition → x = entry)
    (fun {d s s' o} turn about => ?_) (fun d _ about => ?_)
  · obtain rfl : d = definition := turn.definition.symm.trans about
    rw [← start] at terminal ⊢
    rw [(turn.of_terminal terminal).1 o rfl]
    rfl
  · obtain rfl : d = definition := (definition_statusOrFresh d kept).symm.trans about
    exact start

/-- **A finished entry is found again** after a round that declares its definition. -/
theorem findStatus_stored (declared : definition ∈ r.declared group)
    (found : findStatus definition kept = some entry) (terminal : entry.isTerminal = true) :
    findStatus definition (r.stored group kept) = some entry := by
  have unique : ∀ x ∈ r.stored group kept, x.definition = definition → x = entry :=
    eq_of_mem_stored found terminal
  rw [← r.definitions_stored group kept] at declared
  obtain ⟨x, hx, about⟩ := List.mem_map.1 declared
  exact findStatus_eq_some (unique x hx about ▸ hx) (unique x hx about ▸ about) unique

/-- **Every round spares a finished entry.** -/
theorem spares_of_terminal (found : findStatus definition kept = some entry)
    (terminal : entry.isTerminal = true) : r.Spares group kept entry := by
  have start : statusOrFresh definition kept = entry := by rw [statusOrFresh, found]; rfl
  obtain rfl : entry.definition = definition := by simpa using List.find?_some found
  rw [← start] at terminal
  refine ⟨fun i there => ?_, ?_, fun result ok listed => ?_⟩
  · rw [← r.definitions_stored group kept, List.getElem?_map, Option.map_eq_some_iff] at there
    obtain ⟨x, hx, about⟩ := there
    rw [hx, eq_of_mem_stored found (start ▸ terminal) x (List.mem_of_getElem? hx) about]
  · refine List.flatMap_eq_nil_iff.2 fun x hx => ?_
    obtain ⟨mem, about⟩ := List.mem_filter.1 hx
    obtain ⟨s, s', result, turn, calls⟩ := Engine.exists_turn_of_mem_trail mem
    rw [of_decide_eq_true about, group_pass, statuses_pass] at turn
    rw [calls, (turn.of_terminal terminal).2, List.drop_length]
  · have ending := r.ending group kept
    rw [ok] at ending
    cases ending with
    | @complete os _ turns =>
      obtain listed | ⟨o, ho, about, changed⟩ := Reconciliation.exists_outcome_of_lists listed
      · exact Reconciliation.not_lists_empty _ listed
      · refine changed (turns.forall_outcomes
          (P := fun o => o.status.definition = entry.definition → o = .unchanged o.status)
          (fun {d s s' o} turn about => ?_) o ho about)
        obtain rfl : d = entry.definition := turn.definition.symm.trans about
        rw [(turn.of_terminal terminal).1 o rfl]
        rfl

/-- **A round lists a name as completed once at most**, and leaves its entry finished. -/
theorem completed_of_distinct (kept : List ItemStatus) (distinct : (r.declared group).Nodup) :
    (completedNames (r.result group kept)).Nodup ∧
      ∀ definition ∈ completedNames (r.result group kept),
        ∃ entry, findStatus definition (r.stored group kept) = some entry ∧
          entry.isTerminal = true := by
  have names := r.definitions_stored group kept
  have ending := r.ending group kept
  have found {x : ItemStatus} (mem : x ∈ r.stored group kept) :=
    findStatus_of_mem_stored distinct mem
  rw [stored] at names found ⊢
  generalize r.result group kept = result at names ending found ⊢
  generalize (r.engine.reconcile (r.pass group kept) r.world).2.scene = s' at ending
  cases ending with
  | cut => exact ⟨.nil, fun _ mem => absurd mem List.not_mem_nil⟩
  | @complete os _ turns =>
    have completed : completedNames (.ok (os.foldl Reconciliation.record .empty).summarized)
        = (os.filter (·.isCompletion)).map (·.status.definition) :=
      Reconciliation.completed_foldl_record os .empty
    have stored : keptStatuses (.ok (os.foldl Reconciliation.record .empty).summarized)
        = os.map (·.status) := by
      simp [keptStatuses, Reconciliation.statuses_foldl_record, Reconciliation.empty]
    rw [stored] at names found ⊢
    rw [completed]
    rw [← names, List.map_map] at distinct
    refine ⟨distinct.sublist ((List.filter_sublist).map _), fun definition mem => ?_⟩
    obtain ⟨o, ho, rfl⟩ := List.mem_map.1 mem
    obtain ⟨mem, completion⟩ := List.mem_filter.1 ho
    exact ⟨o.status, found (List.mem_map_of_mem mem), turns.forall_outcomes
      (P := fun o => o.isCompletion = true → o.status.isTerminal = true)
      Engine.Turn.isTerminal_of_completion o mem completion⟩

/-! ## Round after round -/

/-- **What the rounds answer**, one after the other. -/
def results (group : CheckGroup) : List ItemStatus → List (Round σ τ) →
    List (Except PassError Reconciliation)
  | _, [] => []
  | kept, r :: rounds => r.result group kept :: results group (r.stored group kept) rounds

/-- **A finished entry is found again** after rounds that all declare its definition. -/
theorem findStatus_run {rounds : List (Round σ τ)}
    (declared : ∀ r ∈ rounds, definition ∈ r.declared group)
    (found : findStatus definition kept = some entry) (terminal : entry.isTerminal = true) :
    findStatus definition (run group kept rounds) = some entry := by
  induction rounds generalizing kept with
  | nil => exact found
  | cons r rounds ih =>
    rw [List.forall_mem_cons] at declared
    exact ih declared.2 (findStatus_stored declared.1 found terminal)

/-- A finished entry is never completed again. -/
theorem count_completed_of_terminal {rounds : List (Round σ τ)}
    (declared : ∀ r ∈ rounds, definition ∈ r.declared group)
    (found : findStatus definition kept = some entry) (terminal : entry.isTerminal = true) :
    ((results group kept rounds).flatMap completedNames).count definition = 0 := by
  induction rounds generalizing kept with
  | nil => rfl
  | cons r rounds ih =>
    rw [List.forall_mem_cons] at declared
    obtain rfl : entry.definition = definition := by simpa using List.find?_some found
    have unlisted : entry.definition ∉ completedNames (r.result group kept) := by
      cases ok : r.result group kept with
      | error err => exact List.not_mem_nil
      | ok result =>
        exact fun mem => (spares_of_terminal found terminal).unlisted result ok (.inr (.inl mem))
    rw [results, List.flatMap_cons, List.count_append, List.count_eq_zero_of_not_mem unlisted,
      ih declared.2 (findStatus_stored declared.1 found terminal)]

/-- **A definition is completed once at most** as long as it is declared. -/
theorem count_completed_le {rounds : List (Round σ τ)}
    (distinct : ∀ r ∈ rounds, (r.declared group).Nodup)
    (declared : ∀ r ∈ rounds, definition ∈ r.declared group) :
    ((results group kept rounds).flatMap completedNames).count definition ≤ 1 := by
  induction rounds generalizing kept with
  | nil => exact Nat.zero_le 1
  | cons r rounds ih =>
    rw [List.forall_mem_cons] at distinct declared
    obtain ⟨once, finished⟩ := completed_of_distinct kept distinct.1
    rw [results, List.flatMap_cons, List.count_append]
    by_cases mem : definition ∈ completedNames (r.result group kept)
    · obtain ⟨entry, found, terminal⟩ := finished definition mem
      rw [count_completed_of_terminal declared.2 found terminal]
      exact List.nodup_iff_count_le_one.1 once definition
    · rw [List.count_eq_zero_of_not_mem mem, Nat.zero_add]
      exact ih distinct.2 declared.2

end Round

/-- **A finished entry is frozen.**  Rounds follow one another in any way.  From the round on after
which the entry of a definition is finished, and as long as the definition stays declared, every
round spares the entry, however it ends.  So a definition that is declared in every round, where no
round declares a name twice, is listed as completed once at most. -/
theorem finished_entries_are_frozen {σ τ : Type} (group : CheckGroup) (kept : List ItemStatus)
    (rounds : List (Round σ τ)) (definition : String) :
    (∀ before between r after entry, rounds = before ++ between ++ r :: after →
      findStatus definition (Round.run group kept before) = some entry →
        entry.isTerminal = true → (∀ r ∈ between, definition ∈ r.declared group) →
          r.Spares group (Round.run group kept (before ++ between)) entry) ∧
      ((∀ r ∈ rounds, (r.declared group).Nodup) →
        (∀ r ∈ rounds, definition ∈ r.declared group) →
          ((Round.results group kept rounds).flatMap completedNames).count definition ≤ 1) := by
  refine ⟨fun before between r after entry _ found terminal declared => ?_,
    Round.count_completed_le⟩
  rw [Round.run_append]
  exact Round.spares_of_terminal (Round.findStatus_run declared found terminal) terminal

/-- A round sees a task finished; the next one, with one more name in front, spares its entry. -/
theorem finished_entries_are_frozen_after_a_round :
    let kept : List ItemStatus := [⟨"smoke", "pre-smoke-10001", .running, none, none⟩]
    let first := Sample.lavishRound ["smoke"]
    let second := Sample.lavishRound ["load", "smoke"]
    ∃ entry, findStatus "smoke" (Round.run .pre kept [first]) = some entry ∧
      entry.isTerminal = true ∧ second.Spares .pre (Round.run .pre kept [first]) entry ∧
        ((Round.results .pre kept [first, second]).flatMap completedNames).count "smoke" ≤ 1 := by
  intro kept first second
  have frozen := finished_entries_are_frozen .pre kept [first, second] "smoke"
  let entry : ItemStatus := ⟨"smoke", "pre-smoke-10001", .succeeded, none, some default⟩
  have found : findStatus "smoke" (Round.run .pre kept [first]) = some entry := by decide +kernel
  refine ⟨entry, found, rfl, ?_, frozen.2 ?_ ?_⟩
  · exact frozen.1 [first] [] second [] entry rfl found rfl fun _ mem =>
      absurd mem List.not_mem_nil
  · simp [first, second, Sample.lavishRound, Round.declared, Sample.item, PhaseItem.declared]
  · simp [first, second, Sample.lavishRound, Round.declared, Sample.item, PhaseItem.declared]

end DeployChecks
