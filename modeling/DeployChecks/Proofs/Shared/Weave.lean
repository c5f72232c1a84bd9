import DeployChecks.Proofs.Rounds.Bookkeeping

/-!
# Proofs/Shared/Weave — passes that take turns

Several passes share one world.  Each is a **strand**: what it has recorded, and the names that are
left.  A schedule says whose turn is next; one step processes and records one definition of that
strand.  As long as nothing stops a strand, a run is told by its **stitches**, the outcomes in the
order in which they came about: `Weaving` ties them to the turns, and what a strand records and calls
is read off its own stitches (`run_weaving`).  A strand that runs alone is a pass (`run_alone`).
Main definitions: `Strand`, `Weave.run`, `Stitch`, `Weaving`.
-/

namespace DeployChecks

/-! ## Strands -/

/-- **A pass under way.** -/
structure Strand where
  /-- What is recorded so far, or why the pass stopped. -/
  result : Except PassError Reconciliation
  /-- The names that are left. -/
  left : List String
  /-- The calls so far. -/
  calls : List Call

namespace Strand

/-- A pass before its first definition. -/
def start (p : Pass) : Strand := ⟨.ok .empty, p.item.declared p.group, []⟩

/-- **What a pass answers** when no name is left. -/
def answer (s : Strand) : Except PassError Reconciliation := s.result.map (·.summarized)

end Strand

/-- **One step of a pass**: one definition has its turn, and its outcome is recorded.  A pass that
is over makes no more steps. -/
def Engine.advance {σ τ : Type} (e : Engine σ τ) (p : Pass) (s : Strand) (w : World σ τ) :
    Strand × World σ τ :=
  match s.result, s.left with
  | .ok r, definition :: rest =>
    let (result, w₁) := e.turn p (p.item.statuses p.group) definition w
    let calls := s.calls ++ w₁.scene.calls.drop w.scene.calls.length
    match result with
    | .ok o => (⟨.ok (r.record o), rest, calls⟩, w₁)
    | .error i => (⟨.error (i.passError definition
        (r.statuses ++ (definition :: rest).map p.entry)), [], calls⟩, w₁)
  | _, _ => (s, w)

/-- **Passes that share a world.** -/
structure Weave (ι σ τ : Type) where
  /-- The passes under way. -/
  strands : ι → Strand
  /-- The world they share. -/
  world : World σ τ

namespace Weave

variable {ι σ τ : Type} [DecidableEq ι] (e : Engine σ τ) (passes : ι → Pass)

/-- Passes that are about to begin. -/
def start (w : World σ τ) : Weave ι σ τ := ⟨fun i => .start (passes i), w⟩

/-- **One step of one pass.** -/
def step (v : Weave ι σ τ) (i : ι) : Weave ι σ τ :=
  let r := e.advance (passes i) (v.strands i) v.world
  ⟨Function.update v.strands i r.1, r.2⟩

/-- **The steps of a schedule.** -/
def run (v : Weave ι σ τ) (schedule : List ι) : Weave ι σ τ := schedule.foldl (step e passes) v

@[simp] theorem run_nil (v : Weave ι σ τ) : run e passes v [] = v := rfl

@[simp] theorem run_cons (v : Weave ι σ τ) (i : ι) (schedule : List ι) :
    run e passes v (i :: schedule) = run e passes (step e passes v i) schedule := rfl

end Weave

/-! ## Stitches -/

/-- **One step of one of several passes**, with what came of it. -/
structure Stitch (ι : Type) where
  /-- Which pass it was. -/
  pass : ι
  /-- The outcome. -/
  outcome : Outcome
  /-- The calls that were made. -/
  calls : List Call

section

variable {ι σ τ : Type} [DecidableEq ι]

/-- **The stitches of one pass.** -/
def ofPass (i : ι) (stitches : List (Stitch ι)) : List (Stitch ι) :=
  stitches.filter (·.pass = i)

/-- The outcomes of one pass. -/
def outcomesOf (i : ι) (stitches : List (Stitch ι)) : List Outcome :=
  (ofPass i stitches).map (·.outcome)

@[simp] theorem ofPass_nil (i : ι) : ofPass i ([] : List (Stitch ι)) = [] := rfl

theorem ofPass_cons (i : ι) (q : Stitch ι) (stitches : List (Stitch ι)) :
    ofPass i (q :: stitches) = if q.pass = i then q :: ofPass i stitches else ofPass i stitches := by
  simp [ofPass, List.filter_cons]

theorem mem_ofPass {i : ι} {q : Stitch ι} {stitches : List (Stitch ι)} :
    q ∈ ofPass i stitches ↔ q ∈ stitches ∧ q.pass = i := by
  simp [ofPass]

/-- **Turns of several passes, in any order**: from the names that are left for each to those that
are left then. -/
inductive Weaving (e : Engine σ τ) (passes : ι → Pass) :
    (ι → List String) → Scene σ τ → List (Stitch ι) → (ι → List String) → Scene σ τ → Prop
  /-- No turn. -/
  | nil {left : ι → List String} {s : Scene σ τ} : Weaving e passes left s [] left s
  /-- One more turn in front. -/
  | cons {left left' : ι → List String} {s s₁ s₂ : Scene σ τ} {q : Stitch ι} {rest : List String}
      {stitches : List (Stitch ι)} (next : left q.pass = q.outcome.status.definition :: rest)
      (turn : e.Turn (passes q.pass) ((passes q.pass).item.statuses (passes q.pass).group)
        q.outcome.status.definition s (.ok q.outcome) s₁)
      (calls : s₁.calls = s.calls ++ q.calls)
      (more : Weaving e passes (Function.update left q.pass rest) s₁ stitches left' s₂) :
    Weaving e passes left s (q :: stitches) left' s₂

namespace Weaving

variable {e : Engine σ τ} {passes : ι → Pass} {left left' : ι → List String} {s s' : Scene σ τ}
  {stitches : List (Stitch ι)}

/-- Calls are never taken back. -/
theorem calls_grow (weaving : Weaving e passes left s stitches left' s') : s.calls <+: s'.calls := by
  induction weaving with
  | nil => exact List.prefix_refl _
  | cons _ turn _ _ ih => exact turn.calls_grow.trans ih

/-- **The stitches of a pass go through its names**, in order. -/
theorem definitions (weaving : Weaving e passes left s stitches left' s') (i : ι) :
    left i = (outcomesOf i stitches).map (·.status.definition) ++ left' i := by
  induction weaving with
  | nil => rfl
  | @cons left _ _ _ _ q rest _ next _ _ _ ih =>
    rw [outcomesOf, ofPass_cons]
    split
    · next same =>
      subst same
      rw [Function.update_self] at ih
      rw [next, ih]
      rfl
    · next other =>
      rw [Function.update_of_ne (Ne.symm other)] at ih
      exact ih

/-- **What the calls of a pass tell** can be told from its outcomes. -/
theorem told_calls (weaving : Weaving e passes left s stitches left' s') (i : ι) :
    told ((ofPass i stitches).flatMap (·.calls)) = (outcomesOf i stitches).flatMap fun o =>
      o.news (passes i).item ((findStatus o.status.definition
        ((passes i).item.statuses (passes i).group)).map (·.state)) := by
  induction weaving with
  | nil => rfl
  | @cons left _ _ _ _ q rest _ _ turn calls _ ih =>
    have news := turn.told
    rw [calls, told_append, List.append_cancel_left_eq] at news
    rw [outcomesOf, ofPass_cons]
    split
    · next same =>
      subst same
      rw [List.flatMap_cons, told_append, ih, news]
      rfl
    · exact ih

end Weaving

end

/-! ## Runs and their stitches -/

namespace Weave

variable {ι σ τ : Type} [DecidableEq ι] {e : Engine σ τ} {passes : ι → Pass}

/-- A strand that has no names left stays as it is. -/
theorem step_of_nil {v : Weave ι σ τ} {i : ι} (done : (v.strands i).left = []) :
    step e passes v i = v := by
  have finished : e.advance (passes i) (v.strands i) v.world = (v.strands i, v.world) := by
    unfold Engine.advance
    rw [done]
    split
    · next contra => cases contra
    · rfl
  rw [step, finished, Function.update_eq_self]

/-- A step whose turn has an outcome. -/
theorem step_of_ok {v : Weave ι σ τ} {i : ι} {r : Reconciliation} {definition : String}
    {rest : List String} {o : Outcome} {w₁ : World σ τ} (going : (v.strands i).result = .ok r)
    (next : (v.strands i).left = definition :: rest)
    (turn : e.turn (passes i) ((passes i).item.statuses (passes i).group) definition v.world
      = (.ok o, w₁)) :
    step e passes v i = ⟨Function.update v.strands i ⟨.ok (r.record o), rest, (v.strands i).calls
      ++ w₁.scene.calls.drop v.world.scene.calls.length⟩, w₁⟩ := by
  rw [step, Engine.advance, going, next]
  dsimp only
  rw [turn]

/-- A step whose turn stops the pass. -/
theorem step_of_error {v : Weave ι σ τ} {i : ι} {r : Reconciliation} {definition : String}
    {rest : List String} {err : Interruption} {w₁ : World σ τ}
    (going : (v.strands i).result = .ok r) (next : (v.strands i).left = definition :: rest)
    (turn : e.turn (passes i) ((passes i).item.statuses (passes i).group) definition v.world
      = (.error err, w₁)) :
    step e passes v i = ⟨Function.update v.strands i ⟨.error (err.passError definition
      (r.statuses ++ (definition :: rest).map (passes i).entry)), [], (v.strands i).calls
        ++ w₁.scene.calls.drop v.world.scene.calls.length⟩, w₁⟩ := by
  rw [step, Engine.advance, going, next]
  dsimp only
  rw [turn]

/-- A strand that has no names left makes no more steps. -/
theorem run_of_nil {v : Weave ι σ τ} {i : ι} (done : (v.strands i).left = []) (n : Nat) :
    run e passes v (List.replicate n i) = v := by
  induction n with
  | zero => rfl
  | succ n ih => rw [List.replicate_succ, run_cons, step_of_nil done, ih]

variable (e passes)

/-- **A run is told by its stitches**, if no turn stops a pass: what a pass records and calls, and
which names are left. -/
theorem run_weaving (unstopped : ∀ {p prior d s i s'}, ¬ e.Turn p prior d s (.error i) s')
    (schedule : List ι) {v : Weave ι σ τ} {r : ι → Reconciliation}
    (going : ∀ i, (v.strands i).result = .ok (r i)) :
    ∃ stitches, Weaving e passes (fun i => (v.strands i).left) v.world.scene stitches
        (fun i => ((run e passes v schedule).strands i).left)
        (run e passes v schedule).world.scene ∧
      ∀ i, ((run e passes v schedule).strands i).result
          = .ok ((outcomesOf i stitches).foldl .record (r i)) ∧
        ((run e passes v schedule).strands i).calls
          = (v.strands i).calls ++ (ofPass i stitches).flatMap (·.calls) ∧
        ((run e passes v schedule).strands i).left
          = (v.strands i).left.drop (schedule.count i) := by
  induction schedule generalizing v r with
  | nil =>
    refine ⟨[], .nil, fun i => ⟨going i, (List.append_nil _).symm, ?_⟩⟩
    rw [List.count_nil, List.drop_zero]
    rfl
  | cons i schedule ih =>
    rw [run_cons]
    cases next : (v.strands i).left with
    | nil =>
      rw [step_of_nil next]
      obtain ⟨stitches, weaving, told⟩ := ih going
      refine ⟨stitches, weaving, fun j => ⟨(told j).1, (told j).2.1, ?_⟩⟩
      rw [(told j).2.2, List.count_cons]
      split
      · next same =>
        obtain rfl : i = j := by simpa using same
        simp [next]
      · rfl
    | cons definition rest =>
      have turn := e.turn_turn (passes i) ((passes i).item.statuses (passes i).group) definition
        v.world
      cases ran : e.turn (passes i) ((passes i).item.statuses (passes i).group) definition v.world
        with
      | mk result w₁ =>
      rw [ran] at turn
      cases result with
      | error err => exact absurd turn unstopped
      | ok o =>
        rw [step_of_ok (going i) next ran]
        obtain ⟨more, grow⟩ := turn.calls_grow
        rw [← grow, List.drop_left]
        obtain ⟨stitches, weaving, told⟩ := ih (r := Function.update r i ((r i).record o))
          (v := ⟨Function.update v.strands i ⟨.ok ((r i).record o), rest,
            (v.strands i).calls ++ more⟩, w₁⟩) (fun j => by
              by_cases same : j = i
              · subst same
                simp
              · simp [same, going])
        obtain rfl := turn.definition
        refine ⟨⟨i, o, more⟩ :: stitches, .cons next turn grow.symm ?_, fun j => ?_⟩
        · convert weaving using 1
          funext j
          by_cases same : j = i
          · subst same
            simp
          · simp [same]
        · obtain ⟨recorded, called, remaining⟩ := told j
          rw [recorded, called, remaining, outcomesOf, outcomesOf, ofPass_cons, List.count_cons]
          by_cases same : i = j
          · subst same
            simp [next]
          · simp [same, Ne.symm same]

/-- **A pass that runs alone** is one of several that has all its steps in a row. -/
theorem run_alone {i : ι} (definitions : List String) {v : Weave ι σ τ} {r : Reconciliation}
    (going : (v.strands i).result = .ok r) (left : (v.strands i).left = definitions) :
    ((run e passes v (List.replicate definitions.length i)).strands i).answer
        = (e.visitAll (passes i) ((passes i).item.statuses (passes i).group) r definitions
          v.world).1 ∧
      (run e passes v (List.replicate definitions.length i)).world.scene
        = (e.visitAll (passes i) ((passes i).item.statuses (passes i).group) r definitions
          v.world).2.scene ∧
      ((run e passes v (List.replicate definitions.length i)).strands i).calls
        = (v.strands i).calls ++ (e.trail (passes i)
          ((passes i).item.statuses (passes i).group) definitions v.world).flatMap (·.2) := by
  induction definitions generalizing v r with
  | nil =>
    refine ⟨?_, ?_, ?_⟩
    · rw [List.length_nil, List.replicate_zero, run_nil, Strand.answer, going]
      rfl
    · simp [Engine.visitAll, Run.map_apply]
    · simp [Engine.trail]
  | cons definition rest ih =>
    rw [List.length_cons, List.replicate_succ, run_cons, Engine.visitAll_cons, Engine.trail]
    cases ran : e.turn (passes i) ((passes i).item.statuses (passes i).group) definition v.world
      with
    | mk result w₁ =>
    cases result with
    | ok o =>
      rw [step_of_ok going left ran]
      have later := ih (v := ⟨Function.update v.strands i ⟨.ok (r.record o), rest,
        (v.strands i).calls ++ w₁.scene.calls.drop v.world.scene.calls.length⟩, w₁⟩)
        (r := r.record o) (by simp) (by simp)
      simpa using later
    | error err =>
      rw [step_of_error going left ran, run_of_nil (by simp)]
      simp [Strand.answer, Except.map, Run.map_apply, Engine.interrupted_fst,
        Engine.scene_interrupted]
      rfl

end Weave

end DeployChecks
