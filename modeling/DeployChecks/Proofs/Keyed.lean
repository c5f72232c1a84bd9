import DeployChecks.Keyed
import Mathlib.Data.List.Nodup

/-!
# Proofs/Keyed — entries, and what is found

A collection is looked into by keys, but it is a list of entries, and some questions are about the
list: which keys and values there are, how many, and where an entry stands.  An entry is in the list
exactly if its value is found under its key (`mem_toList`); a new entry goes to the end
(`toList_insert`), and removing one leaves what stands before and after it (`exists_values_erase`).
-/

namespace DeployChecks

namespace Keyed

variable {κ α : Type} [DecidableEq κ] {m : Keyed κ α} {k : κ} {v : α}

/-! ## What there is -/

/-- An entry is found under its key. -/
theorem find?_of_mem {e : κ × α} (mem : e ∈ m.toList) : m.find? e.1 = some e.2 := by
  obtain ⟨e', found⟩ : ∃ e', m.toList.find? (fun e' => e'.1 = e.1) = some e' :=
    Option.isSome_iff_exists.1 (List.find?_isSome.2 ⟨e, mem, by simp⟩)
  have same : e'.1 = e.1 := by simpa using List.find?_some found
  rw [find?, found, List.inj_on_of_nodup_map m.nodup (List.mem_of_find?_eq_some found) mem same]
  rfl

/-- **The entries are what is found.** -/
theorem mem_toList : (k, v) ∈ m.toList ↔ m.find? k = some v := by
  refine ⟨find?_of_mem, fun found => ?_⟩
  obtain ⟨⟨k', v'⟩, first, rfl⟩ := Option.map_eq_some_iff.1 found
  obtain rfl : k' = k := by simpa using List.find?_some first
  exact List.mem_of_find?_eq_some first

theorem mem_keys : k ∈ m.keys ↔ ∃ v, m.find? k = some v := by
  refine ⟨fun listed => ?_, fun ⟨v, found⟩ => List.mem_map.2 ⟨(k, v), mem_toList.2 found, rfl⟩⟩
  obtain ⟨e, inside, rfl⟩ := List.mem_map.1 listed
  exact ⟨e.2, find?_of_mem inside⟩

theorem mem_values : v ∈ m.values ↔ ∃ k, m.find? k = some v := by
  refine ⟨fun listed => ?_, fun ⟨k, found⟩ => List.mem_map.2 ⟨(k, v), mem_toList.2 found, rfl⟩⟩
  obtain ⟨e, inside, rfl⟩ := List.mem_map.1 listed
  exact ⟨e.1, find?_of_mem inside⟩

/-! ## Where it stands -/

/-- **A new entry** goes to the end. -/
theorem toList_insert (free : m.find? k = none) : (m.insert k v).toList = m.toList ++ [(k, v)] := by
  have absent : ∀ e ∈ m.toList, e.1 ≠ k := by
    intro e mem same
    rw [← same, find?_of_mem mem] at free
    cases free
  have list : ∀ l : List (κ × α), (∀ e ∈ l, e.1 ≠ k) → insertList k v l = l ++ [(k, v)] := by
    intro l absent
    induction l with
    | nil => rfl
    | cons e rest ih =>
      rw [List.forall_mem_cons] at absent
      rw [insertList, if_neg absent.1, ih absent.2, List.cons_append]
  exact list m.toList absent

/-- Over an entry with the same key nothing is added. -/
theorem keys_insert (taken : k ∈ m.keys) : (m.insert k v).keys = m.keys := by
  have list : ∀ l : List (κ × α), k ∈ l.map Prod.fst →
      (insertList k v l).map Prod.fst = l.map Prod.fst := by
    intro l taken
    induction l with
    | nil => cases taken
    | cons e rest ih =>
      rw [insertList]
      split
      · next same => rw [List.map_cons, List.map_cons, same]
      · next other =>
        have later : k ∈ rest.map Prod.fst := (List.mem_cons.1 taken).resolve_left (Ne.symm other)
        rw [List.map_cons, List.map_cons, ih later]
  exact list m.toList taken

/-- **Removing an entry** leaves the values before it and those after it. -/
theorem exists_values_erase (found : m.find? k = some v) :
    ∃ before after, m.values = before ++ v :: after ∧ (m.erase k).values = before ++ after := by
  obtain ⟨before, after, split⟩ := List.append_of_mem (mem_toList.2 found)
  have distinct := m.nodup
  rw [split, List.map_append, List.map_cons, List.nodup_middle, List.nodup_cons,
    ← List.map_append] at distinct
  have others : ∀ e ∈ before ++ after, e.1 ≠ k := by
    rintro e inside rfl
    exact distinct.1 (List.mem_map.2 ⟨e, inside, rfl⟩)
  rw [List.forall_mem_append] at others
  have left : (m.erase k).toList = before ++ after := by
    change m.toList.filter (fun e => e.1 ≠ k) = before ++ after
    rw [split, List.filter_append, List.filter_cons_of_neg (by simp),
      List.filter_eq_self.2 (by simpa using others.1),
      List.filter_eq_self.2 (by simpa using others.2)]
  exact ⟨before.map Prod.snd, after.map Prod.snd, by simp [values, split], by simp [values, left]⟩

/-! ## How many there are -/

theorem size_pos (found : m.find? k = some v) : 0 < m.size :=
  List.length_pos_of_mem (mem_toList.2 found)

theorem size_insert (free : m.find? k = none) : (m.insert k v).size = m.size + 1 := by
  rw [size, toList_insert free, List.length_append, List.length_singleton]
  rfl

theorem size_insert_over {v' : α} (found : m.find? k = some v) :
    (m.insert k v').size = m.size := by
  have same := congrArg List.length (keys_insert (v := v') (mem_keys.2 ⟨v, found⟩))
  rwa [keys, keys, List.length_map, List.length_map] at same

theorem size_erase (found : m.find? k = some v) : (m.erase k).size = m.size - 1 := by
  obtain ⟨before, after, split, left⟩ := exists_values_erase found
  have whole := congrArg List.length split
  have fewer := congrArg List.length left
  rw [values, List.length_map, List.length_append] at whole fewer
  rw [size, size, whole, fewer, List.length_cons]
  omega

/-! ## What is left -/

/-- A value that is left after a removal is found under another key. -/
theorem exists_ne_of_mem_erase (left : v ∈ (m.erase k).values) :
    ∃ k', k' ≠ k ∧ m.find? k' = some v := by
  obtain ⟨k', found⟩ := mem_values.1 left
  rw [find?_erase] at found
  split at found
  · cases found
  · next other => exact ⟨k', other, found⟩

end Keyed

end DeployChecks
