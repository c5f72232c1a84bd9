/-!
# Keyed — collections with one entry per key

The entries stand in the order in which their keys came in; no order of the keys is needed.
Main definitions: `Keyed`, `insert`, `find?`, `erase`; main statements: `find?_insert` and
`find?_erase`.
-/

namespace DeployChecks

/-- **A collection with one entry per key.** -/
structure Keyed (κ α : Type) where
  /-- The entries, the oldest key first. -/
  toList : List (κ × α)
  /-- No key occurs twice. -/
  nodup : (toList.map Prod.fst).Nodup

namespace Keyed

variable {κ α : Type}

/-- The collection without entries. -/
def empty : Keyed κ α := ⟨[], .nil⟩

instance : EmptyCollection (Keyed κ α) := ⟨empty⟩

instance : Inhabited (Keyed κ α) := ⟨empty⟩

/-- The number of entries. -/
def size (m : Keyed κ α) : Nat := m.toList.length

/-- The keys, the oldest first. -/
def keys (m : Keyed κ α) : List κ := m.toList.map Prod.fst

/-- The values, in the order of their keys. -/
def values (m : Keyed κ α) : List α := m.toList.map Prod.snd

variable [DecidableEq κ]

/-- The value under a key. -/
def find? (m : Keyed κ α) (k : κ) : Option α := (m.toList.find? fun e => e.1 = k).map Prod.snd

/-- The key has an entry. -/
def contains (m : Keyed κ α) (k : κ) : Bool := m.toList.any fun e => e.1 = k

/-- Replace the entry under a key in place, or add one at the end. -/
def insertList (k : κ) (v : α) : List (κ × α) → List (κ × α)
  | [] => [(k, v)]
  | (k', v') :: rest => if k' = k then (k, v) :: rest else (k', v') :: insertList k v rest

theorem mem_keys_insertList {k x : κ} {v : α} :
    ∀ {l : List (κ × α)}, x ∈ (insertList k v l).map Prod.fst ↔ x = k ∨ x ∈ l.map Prod.fst
  | [] => by simp [insertList]
  | (k', v') :: rest => by
    unfold insertList
    split
    · next h => subst h; simp
    · simp only [List.map_cons, List.mem_cons, mem_keys_insertList (l := rest)]
      exact or_left_comm

theorem nodup_insertList {k : κ} {v : α} :
    ∀ {l : List (κ × α)}, (l.map Prod.fst).Nodup → ((insertList k v l).map Prod.fst).Nodup
  | [], _ => by simp [insertList]
  | (k', v') :: rest, h => by
    rw [List.map_cons, List.nodup_cons] at h
    unfold insertList
    split
    · next heq => subst heq; exact List.nodup_cons.2 h
    · next hne =>
      refine List.nodup_cons.2 ⟨fun hm => ?_, nodup_insertList h.2⟩
      rcases mem_keys_insertList.1 hm with hm | hm
      · exact hne hm
      · exact h.1 hm

/-- **Insertion**, over an entry with the same key. -/
def insert (m : Keyed κ α) (k : κ) (v : α) : Keyed κ α :=
  ⟨insertList k v m.toList, nodup_insertList m.nodup⟩

/-- **Removal** of the entry under a key. -/
def erase (m : Keyed κ α) (k : κ) : Keyed κ α where
  toList := m.toList.filter fun e => e.1 ≠ k
  nodup := m.nodup.sublist (List.filter_sublist.map _)

theorem find?_insertList (k x : κ) (v : α) :
    ∀ l : List (κ × α), ((insertList k v l).find? fun e => e.1 = x).map Prod.snd
      = if x = k then some v else (l.find? fun e => e.1 = x).map Prod.snd
  | [] => by
    by_cases h : x = k
    · simp [insertList, h]
    · simp [insertList, h, Ne.symm h]
  | (k', v') :: rest => by
    unfold insertList
    split
    · next heq =>
      subst heq
      by_cases h : x = k'
      · simp [h]
      · simp [h, Ne.symm h]
    · next hne =>
      by_cases hx : k' = x
      · subst hx; simp [hne]
      · simp only [List.find?_cons, hx, decide_false]
        exact find?_insertList k x v rest

/-- **What is found after an insertion.** -/
theorem find?_insert (m : Keyed κ α) (k x : κ) (v : α) :
    (m.insert k v).find? x = if x = k then some v else m.find? x :=
  find?_insertList k x v m.toList

/-- **What is found after a removal.** -/
theorem find?_erase (m : Keyed κ α) (k x : κ) :
    (m.erase k).find? x = if x = k then none else m.find? x := by
  unfold find? erase
  rw [List.find?_filter]
  split
  · next h =>
    subst h
    rw [List.find?_eq_none.2 (by simp)]
    rfl
  · next h =>
    congr 2
    funext e
    by_cases hx : e.1 = x
    · simp [hx, h]
    · simp [hx]

@[simp] theorem find?_empty (k : κ) : (empty : Keyed κ α).find? k = none := rfl

/-- **The same keys with other values.** -/
def mapValues {β : Type} (f : α → β) (m : Keyed κ α) : Keyed κ β where
  toList := m.toList.map fun e => (e.1, f e.2)
  nodup := by simpa [Function.comp_def] using m.nodup

theorem find?_mapValues {β : Type} (f : α → β) (m : Keyed κ α) (k : κ) :
    (m.mapValues f).find? k = (m.find? k).map f := by
  simp only [find?, mapValues, List.find?_map, Option.map_map]
  rfl

end Keyed

end DeployChecks
