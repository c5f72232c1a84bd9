import DeployChecks.StatusSummary
import Mathlib.Data.List.Count
import Mathlib.Data.List.Perm.Basic

/-!
# Proofs/StatusSummary — what a summary says of the entries that it counts

A summary is folded from entries one by one, but all that is kept is how often each state occurs
(`ofStates_eq`).  So the order of the entries does not show, and lists that are joined add up.  The
state of the whole group weighs as much as the heaviest of its entries (`weight_le_overall`,
`overall_attained`); whether the group is complete, and how it ended, is read off from that.  Main
definitions: `TaskState.weight`, `StatusSummary.Tallies`; main statement: `summaries_tally`.
-/

namespace DeployChecks

namespace TaskState

/-- **How much a state weighs** for the group that it occurs in: what has succeeded weighs nothing,
what has failed weighs most. -/
def weight : TaskState → Nat
  | succeeded => 0
  | pending => 1
  | running => 2
  | failed => 3

/-- The heavier of two states. -/
def heavier (a b : TaskState) : TaskState := if a.weight ≤ b.weight then b else a

theorem weight_injective : Function.Injective weight := by
  intro a b same
  cases a <;> cases b <;> simp [weight] at same ⊢

theorem weight_heavier (a b : TaskState) : (a.heavier b).weight = max a.weight b.weight := by
  unfold heavier
  split <;> omega

end TaskState

namespace StatusSummary

/-- **The sum of two summaries**, count by count. -/
instance : Add StatusSummary where
  add a b := ⟨a.total + b.total, a.pending + b.pending, a.running + b.running,
    a.succeeded + b.succeeded, a.failed + b.failed⟩

theorem add_def (a b : StatusSummary) :
    a + b = ⟨a.total + b.total, a.pending + b.pending, a.running + b.running,
      a.succeeded + b.succeeded, a.failed + b.failed⟩ := rfl

/-! ## Counting -/

variable {states states' : List TaskState} {state : TaskState}

theorem foldl_record (states : List TaskState) (s : StatusSummary) :
    states.foldl record s = ⟨s.total + states.length, s.pending + states.count .pending,
      s.running + states.count .running, s.succeeded + states.count .succeeded,
      s.failed + states.count .failed⟩ := by
  induction states generalizing s with
  | nil => rfl
  | cons state states ih =>
    rw [List.foldl_cons, ih]
    cases state <;> simp [record] <;> omega

/-- **A summary counts every state**, and all of them. -/
theorem ofStates_eq (states : List TaskState) :
    ofStates states = ⟨states.length, states.count .pending, states.count .running,
      states.count .succeeded, states.count .failed⟩ := by
  simp [ofStates, foldl_record, zero]

/-- Every state is one of four. -/
theorem sum_counts (states : List TaskState) :
    states.count .pending + states.count .running + states.count .succeeded
      + states.count .failed = states.length := by
  induction states with
  | nil => rfl
  | cons state states ih => cases state <;> simp <;> omega

/-- A list that goes on is summed up from where the first part was left. -/
theorem ofStates_append (states states' : List TaskState) :
    ofStates (states ++ states') = ofStates states + ofStates states' := by
  simp only [ofStates_eq, add_def, List.length_append, List.count_append]

/-- **A summary knows the states and nothing else**: not their order. -/
theorem ofStates_eq_iff : ofStates states = ofStates states' ↔ states.Perm states' := by
  rw [List.perm_iff_count]
  constructor
  · intro same state
    simp only [ofStates_eq, mk.injEq] at same
    obtain ⟨-, pending, running, succeeded, failed⟩ := same
    cases state with
    | pending => exact pending
    | running => exact running
    | succeeded => exact succeeded
    | failed => exact failed
  · intro counts
    have lengths : states.length = states'.length := by
      rw [← sum_counts, ← sum_counts, counts, counts, counts, counts]
    simp only [ofStates_eq, lengths, counts]

/-! ## What is finished -/

theorem count_terminal (states : List TaskState) :
    states.count .succeeded + states.count .failed = states.countP (·.isTerminal) := by
  induction states with
  | nil => rfl
  | cons state states ih =>
    rw [List.countP_cons, ← ih, List.count_cons, List.count_cons]
    cases state <;> simp [TaskState.isTerminal] <;> omega

theorem isComplete_ofStates :
    (ofStates states).isComplete = true ↔ ∀ state ∈ states, state.isTerminal = true := by
  rw [isComplete, beq_iff_eq, completed, ofStates_eq, count_terminal, List.countP_eq_length]

/-! ## What decides -/

/-- No entry weighs more than the group. -/
theorem weight_le_overall (mem : state ∈ states) :
    state.weight ≤ (ofStates states).overall.weight := by
  have occurs := List.count_pos_iff.2 mem
  rw [ofStates_eq, overall]
  cases state with
  | succeeded => exact Nat.zero_le _
  | pending => split_ifs <;> decide
  | running => split_ifs <;> decide
  | failed => exact (if_pos occurs).symm ▸ Nat.le_refl _

/-- A group that has succeeded holds nothing that weighs. -/
theorem eq_succeeded_of_overall (whole : (ofStates states).overall = .succeeded)
    (mem : state ∈ states) : state = .succeeded := by
  have light := weight_le_overall mem
  rw [whole] at light
  exact TaskState.weight_injective (Nat.le_zero.1 light)

/-- **The group stands where one of its entries stands**, unless it is empty. -/
theorem overall_attained (states : List TaskState) :
    states = [] ∧ (ofStates states).overall = .succeeded ∨ (ofStates states).overall ∈ states := by
  rcases states with _ | ⟨first, rest⟩
  · exact .inl ⟨rfl, rfl⟩
  · right
    by_cases whole : (ofStates (first :: rest)).overall = .succeeded
    · rw [whole, ← eq_succeeded_of_overall whole List.mem_cons_self]
      exact List.mem_cons_self
    · rw [ofStates_eq, overall] at whole ⊢
      split_ifs at whole ⊢ with failed running pending
      · exact List.count_pos_iff.1 failed
      · exact List.count_pos_iff.1 running
      · exact List.count_pos_iff.1 pending
      · exact absurd rfl whole

/-- The group weighs no more than its entries do. -/
theorem weight_overall_le {n : Nat} (light : ∀ state ∈ states, state.weight ≤ n) :
    (ofStates states).overall.weight ≤ n := by
  obtain ⟨-, whole⟩ | mem := overall_attained states
  · rw [whole]
    exact Nat.zero_le n
  · exact light _ mem

/-- Of lists that are joined, the heavier one decides. -/
theorem overall_append (states states' : List TaskState) :
    (ofStates (states ++ states')).overall
      = (ofStates states).overall.heavier (ofStates states').overall := by
  refine TaskState.weight_injective (Eq.trans (Nat.le_antisymm ?_ ?_)
    (TaskState.weight_heavier _ _).symm)
  · refine weight_overall_le fun state mem => ?_
    rcases List.mem_append.1 mem with mem | mem
    · exact Nat.le_trans (weight_le_overall mem) (Nat.le_max_left _ _)
    · exact Nat.le_trans (weight_le_overall mem) (Nat.le_max_right _ _)
  · exact Nat.max_le.2
      ⟨weight_overall_le fun state mem => weight_le_overall (List.mem_append_left _ mem),
        weight_overall_le fun state mem => weight_le_overall (List.mem_append_right _ mem)⟩

/-! ## A summary and its entries -/

/-- The count of a state. -/
def counted (s : StatusSummary) : TaskState → Nat
  | .pending => s.pending
  | .running => s.running
  | .succeeded => s.succeeded
  | .failed => s.failed

theorem counted_ofStates (states : List TaskState) (state : TaskState) :
    (ofStates states).counted state = states.count state := by
  rw [ofStates_eq]
  cases state <;> rfl

/-- **A summary tallies with entries.** -/
structure Tallies (entries : List ItemStatus) (s : StatusSummary) : Prop where
  /-- It counts all of them. -/
  total : s.total = entries.length
  /-- It counts those in each state. -/
  counts : ∀ state, s.counted state = entries.countP (·.state == state)
  /-- Together these are all. -/
  sum : s.pending + s.running + s.succeeded + s.failed = s.total
  /-- It is the summary of exactly the lists in which the same states occur as often. -/
  unordered : ∀ entries', ofStatuses entries' = s ↔
    (entries'.map (·.state)).Perm (entries.map (·.state))
  /-- Joined lists add up. -/
  joined : ∀ more, ofStatuses (entries ++ more) = s + ofStatuses more
  /-- Further states can be recorded into it one by one. -/
  recorded : ∀ states, states.foldl record s = ofStates (entries.map (·.state) ++ states)
  /-- It is complete if every entry is finished. -/
  complete : s.isComplete = true ↔ ∀ x ∈ entries, x.isTerminal = true
  /-- No entry weighs more than the group. -/
  heaviest : ∀ x ∈ entries, x.state.weight ≤ s.overall.weight
  /-- The group stands where some entry stands, or there is none and it has succeeded. -/
  attained : entries = [] ∧ s.overall = .succeeded ∨ ∃ x ∈ entries, x.state = s.overall
  /-- Of joined lists the heavier one decides. -/
  decided : ∀ more, (ofStatuses (entries ++ more)).overall
    = s.overall.heavier (ofStatuses more).overall
  /-- A complete group has succeeded or failed. -/
  ended : s.isComplete = true → s.overall = .succeeded ∨ s.overall = .failed
  /-- A group that has succeeded is complete, and each of its entries has succeeded. -/
  succeeded : s.overall = .succeeded →
    s.isComplete = true ∧ ∀ x ∈ entries, x.state = .succeeded

/-- **A summary depends on the states that occur and how often**, and on nothing else; and it tells
where the whole group stands. -/
theorem summaries_tally (entries : List ItemStatus) : Tallies entries (ofStatuses entries) := by
  have complete : (ofStatuses entries).isComplete = true ↔ ∀ x ∈ entries, x.isTerminal = true :=
    isComplete_ofStates.trans List.forall_mem_map
  have attained : entries = [] ∧ (ofStatuses entries).overall = .succeeded ∨
      ∃ x ∈ entries, x.state = (ofStatuses entries).overall :=
    (overall_attained _).imp (.imp_left List.map_eq_nil_iff.1) List.mem_map.1
  refine
    { total := ?_
      counts := fun state => ?_
      sum := ?_
      unordered := fun entries' => ofStates_eq_iff
      joined := fun more => ?_
      recorded := fun states => List.foldl_append.symm
      complete := complete
      heaviest := fun x mem => weight_le_overall (List.mem_map_of_mem mem)
      attained := attained
      decided := fun more => ?_
      ended := fun finished => ?_
      succeeded := fun whole => ?_ }
  · rw [ofStatuses, ofStates_eq, List.length_map]
  · exact (counted_ofStates _ _).trans List.countP_map
  · rw [ofStatuses, ofStates_eq]
    exact sum_counts _
  · rw [ofStatuses, List.map_append]
    exact ofStates_append _ _
  · rw [ofStatuses, List.map_append]
    exact overall_append _ _
  · obtain ⟨-, whole⟩ | ⟨x, mem, same⟩ := attained
    · exact .inl whole
    · rw [← same]
      have last := complete.1 finished x mem
      rw [ItemStatus.isTerminal] at last
      cases state : x.state with
      | succeeded => exact .inl rfl
      | failed => exact .inr rfl
      | pending | running => rw [state] at last; cases last
  · have every : ∀ x ∈ entries, x.state = .succeeded := fun x mem =>
      eq_succeeded_of_overall whole (List.mem_map_of_mem mem)
    refine ⟨complete.2 fun x mem => ?_, every⟩
    rw [ItemStatus.isTerminal, every x mem]
    rfl

end StatusSummary

end DeployChecks
