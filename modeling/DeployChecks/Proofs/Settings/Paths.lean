import DeployChecks.Proofs.Settings.Leaves
import DeployChecks.Proofs.Text.Lowercase

/-!
# Proofs/Settings/Paths — what a tree holds after an assignment

A setting is laid over a tree along steps, and read from it along names.  The steps may lead to what
is read, or into it (`find?_assignSteps_through`); or they part from the names on the way, and then
what is read stays as it was (`find?_assignSteps_apart`).  Main definitions: `Tree.find?`, `Apart`.
-/

namespace DeployChecks

namespace Settings

namespace Tree

/-- **What a tree holds under names**, one within the other. -/
def find? : List String → Tree → Option Tree
  | [], t => some t
  | name :: path, t => (t.members.lookup name).bind (find? path)

variable {v t : Tree} {name : String} {path : List String} {steps : List Step}

theorem find?_cons : find? (name :: path) t = (t.members.lookup name).bind (find? path) := rfl

theorem find?_singleton : find? [name] t = t.members.lookup name :=
  Option.bind_fun_some _

/-- What stands under a name within another stands in a group. -/
theorem find?_pair {inner : String} : find? [name, inner] t = some v ↔
    ∃ members, t.members.lookup name = some (.table members) ∧ members.lookup inner = some v := by
  rw [find?_cons, Option.bind_eq_some_iff]
  constructor
  · rintro ⟨group, found, held⟩
    rw [find?_singleton] at held
    cases group with
    | table members => exact ⟨members, found, held⟩
    | _ => cases held
  · rintro ⟨members, found, held⟩
    exact ⟨_, found, find?_singleton.trans held⟩

/-- Only groups hold anything. -/
theorem find?_null (below : path ≠ []) : find? path null = none := by
  cases path with
  | nil => exact absurd rfl below
  | cons name path => rfl

/-! ## Assignments -/

/-- What is no group replaces what is below. -/
theorem overlay_of_not_collection (single : v.isCollection = false) (below : Tree) :
    below.overlay v = v := by
  cases v with
  | table members => cases single
  | _ => rfl

/-- A value is laid over a tree step by step. -/
theorem assignSteps_member (single : v.isCollection = false) :
    assignSteps v (.member name :: steps) t =
      .table (StringMap.insertSorted (Text.lowercase name)
        (assignSteps v steps ((t.members.lookup (Text.lowercase name)).getD .null)) t.members) := by
  cases steps with
  | nil =>
    rw [assignSteps, assignSteps, put, membersOverlay, membersOverlay,
      overlay_of_not_collection single, overlay_of_not_collection single]
  | cons step steps => rw [assignSteps]; exact nofun

/-- Steps lead into a group or a list. -/
theorem isCollection_assignSteps (further : steps ≠ []) :
    (assignSteps v steps t).isCollection = true := by
  cases steps with
  | nil => exact absurd rfl further
  | cons step steps =>
    cases step <;> cases steps <;> rfl

/-! ## Reading after an assignment -/

/-- **Through the names that are read**: there stands what the further steps make of what stood
there. -/
theorem find?_assignSteps_through (single : v.isCollection = false) (names : List String)
    (steps : List Step) :
    (assignSteps v (names.map .member ++ steps) t).find? (names.map Text.lowercase)
      = some (assignSteps v steps ((t.find? (names.map Text.lowercase)).getD .null)) := by
  induction names generalizing t with
  | nil => rfl
  | cons name names ih =>
    rw [List.map_cons, List.map_cons, List.cons_append, assignSteps_member single, find?_cons,
      members, StringMap.lookup_insertSorted, if_pos rfl, Option.bind_some, ih, find?_cons]
    cases t.members.lookup (Text.lowercase name) with
    | some inner => rfl
    | none =>
      rw [Option.getD_none, Option.bind_none, Option.getD_none]
      cases names <;> rfl

/-- **The steps part from the names** on the way. -/
def Apart : List Step → List String → Prop
  | .member m :: steps, name :: path => Text.lowercase m ≠ name ∨ Apart steps path
  | _, _ => False

/-- They part at a name. -/
theorem Apart.ne_nil (apart : Apart steps path) : path ≠ [] := by
  rintro rfl
  cases steps with
  | nil => cases apart
  | cons step steps => cases step <;> cases apart

/-- Members part from names where their names do. -/
theorem apart_of_zip {names : List String} (small : ∀ m ∈ names, Text.lowercase m = m)
    (part : ∃ q ∈ names.zip path, q.1 ≠ q.2) : Apart (names.map .member) path := by
  induction names generalizing path with
  | nil => simp at part
  | cons m names ih =>
    obtain ⟨first, small⟩ := List.forall_mem_cons.1 small
    cases path with
    | nil => simp at part
    | cons name path =>
      obtain ⟨q, mem, other⟩ := part
      rcases List.mem_cons.1 mem with rfl | mem
      · exact .inl (first.symm ▸ other)
      · exact .inr (ih small ⟨q, mem, other⟩)

/-- **Apart from the names that are read** nothing changes. -/
theorem find?_assignSteps_apart (single : v.isCollection = false) (apart : Apart steps path) :
    (assignSteps v steps t).find? path = t.find? path := by
  induction steps generalizing t path with
  | nil => cases apart
  | cons step steps ih =>
    cases path with
    | nil => exact absurd rfl apart.ne_nil
    | cons name path =>
      cases step with
      | item n => cases apart
      | member m =>
        rw [assignSteps_member single, find?_cons, find?_cons, members,
          StringMap.lookup_insertSorted]
        split_ifs with same
        · obtain other | apart := apart
          · exact absurd same.symm other
          · rw [Option.bind_some, ih apart, same]
            cases t.members.lookup (Text.lowercase m) with
            | some inner => rfl
            | none => exact find?_null apart.ne_nil
        · rfl

/-- **Steps that miss names**: they part from them, or lead through them and further. -/
def Misses (steps : List Step) (path : List String) : Prop :=
  Apart steps path ∨ ∃ rest, rest ≠ [] ∧ steps = path.map .member ++ rest

end Tree

end Settings

end DeployChecks
