import DeployChecks.Proofs.Lists
import DeployChecks.Proofs.Settings.Keys

/-!
# Proofs/Settings/Written — what a file holds is what is written in it

The settings of a file are laid over nothing, one by one and by their names in small letters.  If no
outermost name holds steps, and the groups on the way to a setting name each of their members once
and in small letters, then the tree holds for the setting what is written under its names.  Main
definition: `IsPlain`; main statement: `find?_path_of_isPlain`.
-/

namespace DeployChecks

namespace Settings

variable {v : Tree} {path : List String} {below members l : List (String × Tree)}

/-- **Every member is named once and in small letters.** -/
structure NamesOnce (members : List (String × Tree)) : Prop where
  /-- No name is taken twice. -/
  distinct : (members.map Prod.fst).Nodup
  /-- The names are in small letters. -/
  small : ∀ e ∈ members, Text.lowercase e.1 = e.1

/-- So it is in each group on a way. -/
def NamesOnceAlong : List String → Tree → Prop
  | [], _ => True
  | name :: path, t => NamesOnce t.members ∧
    ∀ inner, t.members.lookup name = some inner → NamesOnceAlong path inner

/-- **Settings that are written plainly**, as far as a way through their groups can tell. -/
structure IsPlain (path : List String) (l : List (String × Tree)) : Prop where
  /-- The groups on the way name each of their members once. -/
  once : NamesOnceAlong path (.table l)
  /-- An outermost name stands for itself. -/
  own : ∀ e ∈ l, Key.read e.1 = ⟨e.1, []⟩

namespace Tree

/-- What a group holds that was laid over another one. -/
theorem lookup_membersOverlay (once : NamesOnce members) (name : String) :
    (membersOverlay below members).lookup name = match members.lookup name with
      | some v => some (((below.lookup name).getD (.table [])).overlay v)
      | none => below.lookup name := by
  obtain ⟨distinct, small⟩ := once
  induction members generalizing below with
  | nil => rfl
  | cons e members ih =>
    obtain ⟨first, small⟩ := List.forall_mem_cons.1 small
    obtain ⟨new, distinct⟩ := List.nodup_cons.1 distinct
    rw [membersOverlay, ih distinct small, first, List.lookup_cons,
      StringMap.lookup_insertSorted]
    by_cases here : name = e.1
    · have absent : members.lookup name = none := lookup_eq_none fun e' mem same =>
        new (here ▸ same ▸ List.mem_map_of_mem mem)
      rw [absent, if_pos here, beq_iff_eq.2 here, here]
    · rw [if_neg here, beq_eq_false_iff_ne.2 here]

/-- What is laid over nothing holds what it held before. -/
theorem find?_overlay_empty {t : Tree} (once : NamesOnceAlong path t) :
    ((Tree.table []).overlay t).find? path = (t.find? path).map (Tree.table []).overlay := by
  induction path generalizing t with
  | nil => rfl
  | cons name path ih =>
    cases t with
    | table members =>
      cases members with
      | nil => rfl
      | cons e rest =>
        obtain ⟨here, further⟩ : NamesOnce (e :: rest) ∧ _ := once
        simp only [overlay, find?_cons, Tree.members, lookup_membersOverlay here]
        cases found : (e :: rest).lookup name with
        | none => rfl
        | some inner => exact ih (further inner found)
    | _ => rfl

/-- Only what is no list and no group is laid over a group as it is. -/
theorem overlay_empty_eq_iff {t : Tree} (single : v.isCollection = false) :
    (Tree.table []).overlay t = v ↔ t = v := by
  cases t with
  | table members =>
    cases members with
    | nil => rfl
    | cons e rest =>
      refine iff_of_false ?_ ?_
      · rintro rfl
        cases single
      · rintro rfl
        cases single
  | _ => rfl

/-- Names that stand for themselves are laid over a group as its members. -/
theorem members_assignAll {t : Tree} (own : ∀ e ∈ l, Key.read e.1 = ⟨e.1, []⟩) :
    (t.assignAll l).members = membersOverlay t.members l := by
  induction l generalizing t with
  | nil => rfl
  | cons e l ih =>
    obtain ⟨first, own⟩ := List.forall_mem_cons.1 own
    refine (ih own).trans ?_
    show membersOverlay (t.assign (Key.read e.1) e.2).members l = _
    rw [first]
    rfl

end Tree

/-- **A file holds for a setting what is written under its names**, if it is written plainly. -/
theorem find?_path_of_isPlain {k : Kind} (f : Leaf k) (plain : IsPlain f.path l)
    (single : v.isCollection = false) :
    (fileLayer l).find? f.path = some v ↔ (Tree.table l).find? f.path = some v := by
  obtain ⟨once, own⟩ := plain
  obtain ⟨name, path, names⟩ : ∃ name path, f.path = name :: path := by
    cases f <;> exact ⟨_, _, rfl⟩
  have members : (fileLayer l).members
      = ((Tree.table []).overlay (.table l)).members := by
    rw [fileLayer, Tree.members_assignAll own]
    cases l <;> rfl
  rw [names] at once ⊢
  rw [Tree.find?_cons, members, ← Tree.find?_cons, Tree.find?_overlay_empty once,
    Option.map_eq_some_iff]
  constructor
  · rintro ⟨t, found, same⟩
    rwa [← (Tree.overlay_empty_eq_iff single).1 same]
  · exact fun found => ⟨v, found, (Tree.overlay_empty_eq_iff single).2 rfl⟩

end Settings

end DeployChecks
