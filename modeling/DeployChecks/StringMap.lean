/-!
# StringMap — maps from texts, in the order of their keys

Entries are kept sorted, so that two maps with the same entries are equal and writing one out
needs no sorting.  Main definitions: `StringMap`, `insert`, `find?`, `ofList`; main statement:
`find?_insert`.
-/

namespace DeployChecks

/-- **A map from texts**, its keys strictly increasing. -/
structure StringMap (α : Type) where
  /-- The entries in the order of their keys. -/
  toList : List (String × α)
  /-- The keys increase strictly. -/
  sorted : toList.Pairwise fun a b => a.1 < b.1

namespace StringMap

variable {α β : Type}

instance [DecidableEq α] : DecidableEq (StringMap α) := fun a b =>
  if h : a.toList = b.toList then
    .isTrue (by cases a; cases b; cases h; rfl)
  else .isFalse (by intro e; exact h (congrArg toList e))

/-- Maps with the same entries are equal. -/
theorem ext {a b : StringMap α} (h : a.toList = b.toList) : a = b := by
  cases a; cases b; cases h; rfl

/-- The map without entries. -/
def empty : StringMap α := ⟨[], .nil⟩

instance : EmptyCollection (StringMap α) := ⟨empty⟩

instance : Inhabited (StringMap α) := ⟨empty⟩

/-- The value under a key. -/
def find? (m : StringMap α) (k : String) : Option α := m.toList.lookup k

/-- The keys in order. -/
def keys (m : StringMap α) : List String := m.toList.map Prod.fst

/-- The number of entries. -/
def size (m : StringMap α) : Nat := m.toList.length

/-! ## Insertion -/

/-- Insert into a sorted list, over an entry with the same key. -/
def insertSorted (k : String) (v : α) : List (String × α) → List (String × α)
  | [] => [(k, v)]
  | (k', v') :: rest =>
    if k < k' then (k, v) :: (k', v') :: rest
    else if k = k' then (k, v) :: rest
    else (k', v') :: insertSorted k v rest

theorem key_of_mem_insertSorted {k : String} {v : α} {e : String × α} :
    ∀ {l : List (String × α)}, e ∈ insertSorted k v l → e.1 = k ∨ e ∈ l
  | [], h => by
    simp only [insertSorted, List.mem_singleton] at h
    exact .inl (by rw [h])
  | (k', v') :: rest, h => by
    unfold insertSorted at h
    split at h
    · rcases List.mem_cons.1 h with h | h
      · exact .inl (by rw [h])
      · exact .inr h
    · split at h
      · rcases List.mem_cons.1 h with h | h
        · exact .inl (by rw [h])
        · exact .inr (List.mem_cons_of_mem _ h)
      · rcases List.mem_cons.1 h with h | h
        · exact .inr (h ▸ List.mem_cons_self)
        · exact (key_of_mem_insertSorted h).imp_right (List.mem_cons_of_mem _)

/-- Texts are comparable. -/
theorem lt_of_not_lt_of_ne {a b : String} (h : ¬ a < b) (hne : a ≠ b) : b < a := by
  rcases Decidable.em (b < a) with h' | h'
  · exact h'
  · exact absurd (String.le_antisymm (String.not_lt.1 h') (String.not_lt.1 h)) hne

theorem insertSorted_sorted {k : String} {v : α} :
    ∀ {l : List (String × α)}, (l.Pairwise fun a b => a.1 < b.1) →
      (insertSorted k v l).Pairwise fun a b => a.1 < b.1
  | [], _ => by simp [insertSorted]
  | (k', v') :: rest, h => by
    have hhead := (List.pairwise_cons.1 h).1
    have htail := (List.pairwise_cons.1 h).2
    unfold insertSorted
    split
    · next hlt =>
      refine List.pairwise_cons.2 ⟨fun e he => ?_, h⟩
      rcases List.mem_cons.1 he with rfl | he
      · exact hlt
      · exact String.lt_trans hlt (hhead e he)
    · next hlt =>
      split
      · next heq => subst heq; exact List.pairwise_cons.2 ⟨hhead, htail⟩
      · next hne =>
        refine List.pairwise_cons.2 ⟨fun e he => ?_, insertSorted_sorted htail⟩
        rcases key_of_mem_insertSorted he with he | he
        · exact he ▸ lt_of_not_lt_of_ne hlt hne
        · exact hhead e he

/-- **Insertion**, over an entry with the same key. -/
def insert (m : StringMap α) (k : String) (v : α) : StringMap α :=
  ⟨insertSorted k v m.toList, insertSorted_sorted m.sorted⟩

theorem lookup_insertSorted {k : String} {v : α} (x : String) :
    ∀ l : List (String × α), (insertSorted k v l).lookup x = if x = k then some v else l.lookup x
  | [] => by
    by_cases h : x = k
    · simp [insertSorted, h]
    · simp [insertSorted, List.lookup_cons, h, beq_eq_false_iff_ne.2 h]
  | (k', v') :: rest => by
    unfold insertSorted
    split
    · by_cases h : x = k
      · simp [h]
      · simp [List.lookup_cons, beq_eq_false_iff_ne.2 h, h]
    · split
      · next heq =>
        subst heq
        by_cases h : x = k
        · simp [h]
        · simp [List.lookup_cons, beq_eq_false_iff_ne.2 h, h]
      · next hne =>
        by_cases hx : x = k'
        · subst hx; simp [Ne.symm hne]
        · simp only [List.lookup_cons, beq_eq_false_iff_ne.2 hx]
          exact lookup_insertSorted x rest

/-- **What is found after an insertion.** -/
theorem find?_insert (m : StringMap α) (k x : String) (v : α) :
    (m.insert k v).find? x = if x = k then some v else m.find? x :=
  lookup_insertSorted x m.toList

@[simp] theorem find?_empty (k : String) : (empty : StringMap α).find? k = none := rfl

/-! ## Removal, union, images -/

/-- Remove the entry under a key. -/
def erase (m : StringMap α) (k : String) : StringMap α :=
  ⟨m.toList.filter fun e => e.1 ≠ k, m.sorted.filter _⟩

/-- Insert entries one after the other, later ones over earlier ones. -/
def insertMany (m : StringMap α) (l : List (String × α)) : StringMap α :=
  l.foldl (fun m e => m.insert e.1 e.2) m

/-- **The map of a list of entries**; of two under one key the later counts. -/
def ofList (l : List (String × α)) : StringMap α := insertMany empty l

/-- **Union**: the entries of the second map over those of the first. -/
def union (a b : StringMap α) : StringMap α := a.insertMany b.toList

/-- The same keys with other values. -/
def mapValues (f : α → β) (m : StringMap α) : StringMap β :=
  ⟨m.toList.map fun e => (e.1, f e.2), m.sorted.map _ fun _ _ h => h⟩

@[simp] theorem insertMany_nil (m : StringMap α) : m.insertMany [] = m := rfl

@[simp] theorem insertMany_cons (m : StringMap α) (e : String × α) (l : List (String × α)) :
    m.insertMany (e :: l) = (m.insert e.1 e.2).insertMany l := rfl

end StringMap

end DeployChecks
