import Mathlib.Data.List.Forall2
import Mathlib.Data.List.Induction
import Mathlib.Data.List.Nodup
import Mathlib.Data.List.Pairwise

/-!
# Proofs/Lists — lists of pairs, and lists side by side

Under distinct keys a list of pairs is a table.  Two lists that are related one by one agree in all
that is put together from related elements.
-/

namespace DeployChecks

open List (Forall₂)

/-! ## Looking up in a list -/

section Lookup

variable {κ β : Type} [BEq κ] [LawfulBEq κ] {l : List (κ × β)} {k : κ} {v : β}

theorem mem_of_lookup (found : l.lookup k = some v) : (k, v) ∈ l := by
  obtain ⟨before, after, rfl, -⟩ := List.lookup_eq_some_iff.1 found
  exact List.mem_append_right _ List.mem_cons_self

theorem lookup_eq_none (absent : ∀ e ∈ l, e.1 ≠ k) : l.lookup k = none :=
  List.lookup_eq_none_iff.2 fun e mem => bne_iff_ne.2 (absent e mem).symm

/-- A value is found if nothing else stands under its key. -/
theorem lookup_eq_some (mem : (k, v) ∈ l) (one : ∀ e ∈ l, e.1 = k → e.2 = v) :
    l.lookup k = some v := by
  cases found : l.lookup k with
  | none => exact absurd rfl (bne_iff_ne.1 (List.lookup_eq_none_iff.1 found _ mem))
  | some w => exact congrArg some (one _ (mem_of_lookup found) rfl)

/-- What is found in a list under distinct keys is what stands in it. -/
theorem lookup_of_mem (distinct : (l.map Prod.fst).Nodup) (mem : (k, v) ∈ l) :
    l.lookup k = some v :=
  lookup_eq_some mem fun _ other same =>
    congrArg Prod.snd (List.inj_on_of_nodup_map distinct other mem same)

end Lookup

/-! ## Lists that are put together -/

/-- What holds of the pieces and of what stands between them holds of the whole. -/
theorem forall_mem_intercalate {α : Type} {P : α → Prop} {separator : α} (between : P separator)
    {pieces : List (List α)} (holds : ∀ piece ∈ pieces, ∀ a ∈ piece, P a) :
    ∀ a ∈ [separator].intercalate pieces, P a := by
  induction pieces with
  | nil => exact nofun
  | cons piece pieces ih =>
    obtain ⟨first, holds⟩ := List.forall_mem_cons.1 holds
    cases pieces with
    | nil => rwa [List.intercalate_singleton]
    | cons next pieces =>
      rw [List.intercalate_cons_cons, List.forall_mem_append, List.forall_mem_append,
        List.forall_mem_singleton]
      exact ⟨⟨first, between⟩, ih holds⟩

/-- Where a list is split that has one more element: there, or before. -/
theorem concat_eq_middle {α : Type} {l before after : List α} {x a : α}
    (split : l ++ [x] = before ++ a :: after) :
    (l = before ∧ x = a ∧ after = []) ∨
      ∃ after', l = before ++ a :: after' ∧ after = after' ++ [x] := by
  obtain rfl | ⟨after, last, rfl⟩ := List.eq_nil_or_concat after
  · obtain ⟨rfl, same⟩ := List.append_inj' split rfl
    exact .inl ⟨rfl, List.singleton_inj.1 same, rfl⟩
  · rw [List.concat_eq_append, ← List.cons_append, ← List.append_assoc] at split
    obtain ⟨rfl, same⟩ := List.append_inj' split rfl
    obtain rfl := List.singleton_inj.1 same
    exact .inr ⟨after, rfl, List.concat_eq_append⟩

/-! ## Lists that are related one by one -/

/-- The parts of lists of equal lengths agree, if the lists do. -/
theorem eq_of_flatMap_eq {ι β : Type} {f g : ι → List β} :
    ∀ {keys : List ι}, (∀ i ∈ keys, (f i).length = (g i).length) →
      keys.flatMap f = keys.flatMap g → ∀ i ∈ keys, f i = g i
  | [], _, _ => fun i mem => absurd mem List.not_mem_nil
  | i :: keys, lengths, same => by
    rw [List.forall_mem_cons] at lengths
    rw [List.flatMap_cons, List.flatMap_cons] at same
    obtain ⟨first, rest⟩ := List.append_inj same lengths.1
    exact List.forall_mem_cons.2 ⟨first, eq_of_flatMap_eq lengths.2 rest⟩

/-- So do the parts of two lists that are related one by one. -/
theorem forall₂_of_flatMap_eq {α α' β : Type} {R : α → α' → Prop} {f : α → List β}
    {g : α' → List β} (lengths : ∀ a a', R a a' → (f a).length = (g a').length) {l : List α}
    {l' : List α'} (related : Forall₂ R l l') (same : l.flatMap f = l'.flatMap g) :
    Forall₂ (fun a a' => R a a' ∧ f a = g a') l l' := by
  induction related with
  | nil => exact .nil
  | cons first _ ih =>
    rw [List.flatMap_cons, List.flatMap_cons] at same
    obtain ⟨parts, rest⟩ := List.append_inj same (lengths _ _ first)
    exact .cons ⟨first, parts⟩ (ih rest)

/-- Lists that are put together from parts of equal lengths have equal lengths. -/
theorem length_flatMap_eq {α α' β : Type} {R : α → α' → Prop} {f : α → List β} {g : α' → List β}
    (lengths : ∀ a a', R a a' → (f a).length = (g a').length) {l : List α} {l' : List α'}
    (related : Forall₂ R l l') : (l.flatMap f).length = (l'.flatMap g).length := by
  induction related with
  | nil => rfl
  | cons first _ ih =>
    rw [List.flatMap_cons, List.flatMap_cons, List.length_append, List.length_append,
      lengths _ _ first, ih]

theorem flatMap_eq_of_forall₂ {α α' β : Type} {R : α → α' → Prop} {f : α → List β}
    {g : α' → List β} (parts : ∀ a a', R a a' → f a = g a') {l : List α} {l' : List α'}
    (related : Forall₂ R l l') : l.flatMap f = l'.flatMap g := by
  induction related with
  | nil => rfl
  | cons first _ ih => rw [List.flatMap_cons, List.flatMap_cons, parts _ _ first, ih]

/-- Lists with the same images are related one by one. -/
theorem forall₂_of_map_eq {α β : Type} {R : α → α → Prop} {f : α → β} {l l' : List α}
    (step : ∀ a ∈ l, ∀ a' ∈ l', f a = f a' → R a a') (same : l.map f = l'.map f) :
    Forall₂ R l l' := by
  rw [← List.forall₂_eq_eq_eq, List.forall₂_map_left_iff, List.forall₂_map_right_iff] at same
  refine List.forall₂_iff_zip.2 ⟨same.length_eq, fun {a a'} mem => ?_⟩
  obtain ⟨left, right⟩ := List.of_mem_zip mem
  exact step a left a' right (List.forall₂_zip same mem)

/-- Every element has its counterpart. -/
theorem exists_of_forall₂ {α α' : Type} {R : α → α' → Prop} {l : List α} {l' : List α'}
    (related : Forall₂ R l l') : ∀ a ∈ l, ∃ a' ∈ l', R a a' := by
  induction related with
  | nil => exact fun a mem => absurd mem List.not_mem_nil
  | cons first _ ih =>
    refine List.forall_mem_cons.2 ⟨⟨_, List.mem_cons_self, first⟩, fun a mem => ?_⟩
    obtain ⟨a', mem', related⟩ := ih a mem
    exact ⟨a', List.mem_cons_of_mem _ mem', related⟩

/-- A list is taken to another, if that is said one by one. -/
theorem map_eq_of_zip {α : Type} {f : α → α} {l l' : List α} (length : l.length = l'.length)
    (agree : ∀ q ∈ l.zip l', f q.1 = q.2) : l.map f = l' := by
  rw [← List.forall₂_eq_eq_eq, List.forall₂_map_left_iff]
  exact List.forall₂_iff_zip.2 ⟨length, fun mem => agree _ mem⟩

end DeployChecks
