import DeployChecks.Proofs.Tasks.Names
import Mathlib.Data.List.Basic

/-!
# Proofs/Tasks/NameParts — a name is read back

The tag of a group has no dash, and the digits of a number have none.  So whatever dashes stand in
the name of the definition, the first dash of a task's name ends the tag and the last one starts
the digits: cut there, a name gives back what it was written from.

* `read?_eq_some_iff` — reading takes exactly the names that are written with digits without a
  dash, so a name has one reading.
* `nameFor_eq_written` — a new name is written with the definition's part lowered **on its own**;
  this is where `nameFor_eq` lets no letter look over a dash.

Main definition: `NameParts`; main statement: `names_decompose`.
-/

namespace DeployChecks

namespace Text

/-! ## Cuts -/

/-- **A cut at the first of a character**: what stands before it, and what behind. -/
def cutFirst? (b : Char) : List Char → Option (List Char × List Char)
  | [] => none
  | c :: cs => if c = b then some ([], cs) else (cutFirst? b cs).map (.map (c :: ·) id)

/-- **A cut at the last of a character**: one at the first, seen from the end. -/
def cutLast? (b : Char) (cs : List Char) : Option (List Char × List Char) :=
  (cutFirst? b cs.reverse).map fun (behind, before) => (before.reverse, behind.reverse)

variable {b : Char} {cs front rest : List Char}

theorem cutFirst?_append_cons (apart : b ∉ front) :
    cutFirst? b (front ++ b :: rest) = some (front, rest) := by
  induction front with
  | nil => exact if_pos rfl
  | cons c front ih =>
    obtain ⟨here, apart⟩ := not_or.1 (List.mem_cons.not.1 apart)
    rw [List.cons_append, cutFirst?, if_neg (Ne.symm here), ih apart]
    rfl

theorem eq_append_cons_of_cutFirst? (cut : cutFirst? b cs = some (front, rest)) :
    cs = front ++ b :: rest ∧ b ∉ front := by
  induction cs generalizing front with
  | nil => cases cut
  | cons c cs ih =>
    rw [cutFirst?] at cut
    split at cut
    · next here =>
      cases cut
      exact ⟨here ▸ rfl, List.not_mem_nil⟩
    · next other =>
      obtain ⟨⟨front', rest'⟩, later, same⟩ := Option.map_eq_some_iff.1 cut
      cases same
      obtain ⟨rfl, apart⟩ := ih later
      exact ⟨rfl, List.not_mem_cons_of_ne_of_not_mem (Ne.symm other) apart⟩

/-- **A cut is at the first of the characters** and loses nothing else. -/
theorem cutFirst?_eq_some_iff :
    cutFirst? b cs = some (front, rest) ↔ cs = front ++ b :: rest ∧ b ∉ front :=
  ⟨eq_append_cons_of_cutFirst?, fun ⟨split, apart⟩ => split ▸ cutFirst?_append_cons apart⟩

/-- **A cut is at the last of the characters** and loses nothing else. -/
theorem cutLast?_eq_some_iff :
    cutLast? b cs = some (front, rest) ↔ cs = front ++ b :: rest ∧ b ∉ rest := by
  -- what stands before the last one stands behind the first one of the text in reverse
  have mirrored : cutLast? b cs = some (front, rest)
      ↔ cutFirst? b cs.reverse = some (rest.reverse, front.reverse) := by
    simp [cutLast?, List.reverse_eq_iff]
  rw [mirrored, cutFirst?_eq_some_iff, List.mem_reverse, List.reverse_eq_iff]
  simp

end Text

/-! ## Parts -/

namespace CheckGroup

/-- **The group with a tag.** -/
def ofTag? (tag : String) : Option CheckGroup := [pre, post].find? (·.tag = tag)

theorem ofTag?_eq_some_iff {tag : String} {group : CheckGroup} :
    ofTag? tag = some group ↔ group.tag = tag := by
  constructor
  · intro found
    simpa using List.find?_some found
  · rintro rfl
    cases group <;> rfl

theorem dash_not_mem_tag (group : CheckGroup) : '-' ∉ group.tag.toList := by
  cases group <;> decide

end CheckGroup

namespace Task

/-- **What the name of a task is written from.** -/
structure NameParts where
  /-- The group. -/
  group : CheckGroup
  /-- The part from the definition's name. -/
  fragment : String
  /-- The digits of the number. -/
  digits : String
  deriving DecidableEq, Repr

namespace NameParts

/-- **A name written from its parts.** -/
def written (p : NameParts) : String := s!"{p.group.tag}-{p.fragment}-{p.digits}"

/-- **The parts of a name**, cut at its first dash and at the last one behind that. -/
def read? (name : String) : Option NameParts := do
  let (tag, rest) ← Text.cutFirst? '-' name.toList
  let (fragment, digits) ← Text.cutLast? '-' rest
  let group ← CheckGroup.ofTag? (String.ofList tag)
  return ⟨group, String.ofList fragment, String.ofList digits⟩

variable {name : String} {p q : NameParts}

theorem toList_written (p : NameParts) : p.written.toList
    = p.group.tag.toList ++ '-' :: (p.fragment.toList ++ '-' :: p.digits.toList) := by
  have joined : p.written = p.group.tag ++ "-" ++ p.fragment ++ "-" ++ p.digits := rfl
  simp [joined]

/-- **Reading takes what is written and nothing else**, if there is no dash in the digits. -/
theorem read?_eq_some_iff :
    read? name = some p ↔ name = p.written ∧ '-' ∉ p.digits.toList := by
  rw [← String.toList_inj, toList_written]
  simp only [read?, Option.bind_eq_bind, Option.bind_eq_some_iff, Option.pure_def,
    Option.some.injEq, Prod.exists, Text.cutFirst?_eq_some_iff, Text.cutLast?_eq_some_iff,
    CheckGroup.ofTag?_eq_some_iff]
  constructor
  · rintro ⟨tag, rest, ⟨whole, -⟩, fragment, digits, ⟨rfl, apart⟩, group, tagged, rfl⟩
    rw [whole, tagged]
    simpa using apart
  · rintro ⟨whole, apart⟩
    exact ⟨_, _, ⟨whole, p.group.dash_not_mem_tag⟩, _, _, ⟨rfl, apart⟩, p.group, by simp⟩

/-- **A name has one reading.** -/
theorem eq_of_written (same : p.written = q.written) (solid : '-' ∉ p.digits.toList)
    (solid' : '-' ∉ q.digits.toList) : p = q :=
  Option.some.inj ((read?_eq_some_iff.2 ⟨rfl, solid⟩).symm.trans
    (read?_eq_some_iff.2 ⟨same, solid'⟩))

end NameParts

/-! ## The number -/

theorem suffixOf_bounds (draw : Nat) : 10000 ≤ suffixOf draw ∧ suffixOf draw ≤ 99999 := by
  rw [suffixOf]
  omega

theorem toList_suffixOf (draw : Nat) :
    (toString (suffixOf draw)).toList = Nat.toDigits 10 (suffixOf draw) := by
  rw [Nat.toString_eq_repr, Nat.toList_repr]

theorem isDigit_suffixOf (draw : Nat) :
    ∀ c ∈ (toString (suffixOf draw)).toList, c.isDigit = true := by
  rw [toList_suffixOf]
  exact isDigit_toDigits

theorem length_suffixOf (draw : Nat) : (toString (suffixOf draw)).length = 5 := by
  obtain ⟨low, high⟩ := suffixOf_bounds draw
  have short : (suffixOf draw).repr.length ≤ 5 :=
    (Nat.length_repr_le_iff (by decide)).2 (by omega)
  have long : ¬(suffixOf draw).repr.length ≤ 4 := by
    rw [Nat.length_repr_le_iff (by decide)]
    omega
  rw [Nat.toString_eq_repr]
  omega

theorem dash_not_mem_suffixOf (draw : Nat) : '-' ∉ (toString (suffixOf draw)).toList :=
  fun mem => absurd (isDigit_suffixOf draw _ mem) (by decide)

theorem suffixOf_eq_of_digits {draw draw' : Nat}
    (same : toString (suffixOf draw') = toString (suffixOf draw)) :
    suffixOf draw' = suffixOf draw := by
  have digits := congrArg String.toList same
  rw [toList_suffixOf, toList_suffixOf] at digits
  rw [← value_toDigits (suffixOf draw'), digits, value_toDigits]

/-! ## New names -/

/-- **What the name of a definition gives to a task's**: its beginning, lowered on its own. -/
def fragment (definition : String) : String :=
  Text.lowercase (String.ofList (definition.toList.take fragmentLength))

variable {group group' : CheckGroup} {definition definition' : String} {draw draw' : Nat}

/-- **A new name is written from its parts**, each lowered before they are joined. -/
theorem nameFor_eq_written : nameFor group definition draw
    = NameParts.written ⟨group, fragment definition, toString (suffixOf draw)⟩ :=
  nameFor_eq group definition draw

/-- **New names are equal** if the groups, the lowered parts and the numbers are. -/
theorem nameFor_eq_nameFor_iff : nameFor group' definition' draw' = nameFor group definition draw
    ↔ group' = group ∧ fragment definition' = fragment definition ∧
      suffixOf draw' = suffixOf draw := by
  rw [nameFor_eq_written, nameFor_eq_written]
  constructor
  · intro same
    have parts :=
      NameParts.eq_of_written same (dash_not_mem_suffixOf draw') (dash_not_mem_suffixOf draw)
    obtain ⟨groups, fragments, digits⟩ := NameParts.mk.inj parts
    exact ⟨groups, fragments, suffixOf_eq_of_digits digits⟩
  · rintro ⟨rfl, fragments, numbers⟩
    rw [fragments, numbers]

/-- In front of their digits the names of a group are equal if the lowered parts are. -/
theorem stem_eq_stem_iff (group : CheckGroup) :
    stem group definition' = stem group definition
      ↔ fragment definition' = fragment definition := by
  have numbered : stem group definition' = stem group definition
      ↔ nameFor group definition' 0 = nameFor group definition 0 := by
    rw [nameFor_eq, nameFor_eq, String.append_left_inj]
  rw [numbered, nameFor_eq_nameFor_iff, and_iff_right rfl, and_iff_left rfl]

/-- **A name decomposes** into what it was made from. -/
structure Decomposes (group : CheckGroup) (definition : String) (draw : Nat) (name : String) :
    Prop where
  /-- It is the tag, the definition's part lowered on its own, and the number. -/
  written : name = s!"{group.tag}-{fragment definition}-{suffixOf draw}"
  /-- The number has no fewer and no more than five digits. -/
  number : 10000 ≤ suffixOf draw ∧ suffixOf draw ≤ 99999
  /-- So many are written. -/
  digits : (toString (suffixOf draw)).length = 5 ∧
    ∀ c ∈ (toString (suffixOf draw)).toList, c.isDigit = true
  /-- Cut at its first and its last dash, it gives the parts back. -/
  read : NameParts.read? name = some ⟨group, fragment definition, toString (suffixOf draw)⟩
  /-- From other parts it cannot be written. -/
  unique : ∀ p : NameParts, p.written = name → '-' ∉ p.digits.toList →
    p = ⟨group, fragment definition, toString (suffixOf draw)⟩
  /-- It is in lower case. -/
  small : Text.lowercase name = name
  /-- Names of the group differ in nothing but the digits exactly if the definitions have the same
  lowered part. -/
  alike : ∀ definition' draw', fragment definition' = fragment definition ↔
    ∃ front, name = front ++ toString (suffixOf draw) ∧
      nameFor group definition' draw' = front ++ toString (suffixOf draw')
  /-- Another new name is the same exactly if all three parts are. -/
  same : ∀ group' definition' draw', nameFor group' definition' draw' = name ↔
    group' = group ∧ fragment definition' = fragment definition ∧ suffixOf draw' = suffixOf draw

/-- **The names of new tasks decompose**, whatever the name of the definition holds, wherever it is
cut off and whatever number is drawn. -/
theorem names_decompose (group : CheckGroup) (definition : String) (draw : Nat) :
    Decomposes group definition draw (nameFor group definition draw) where
  written := nameFor_eq_written
  number := suffixOf_bounds draw
  digits := ⟨length_suffixOf draw, isDigit_suffixOf draw⟩
  read := NameParts.read?_eq_some_iff.2 ⟨nameFor_eq_written, dash_not_mem_suffixOf draw⟩
  unique p whole solid :=
    NameParts.eq_of_written (whole.trans nameFor_eq_written) solid (dash_not_mem_suffixOf draw)
  small := Text.lowercase_lowercase _
  alike definition' draw' := by
    -- the digits are given, so what two names have in front of them can only be their stems
    rw [← stem_eq_stem_iff group]
    simp only [nameFor_eq, String.append_left_inj]
    exact ⟨fun alike => ⟨_, rfl, alike⟩, fun ⟨front, here, there⟩ => there.trans here.symm⟩
  same group' definition' draw' := nameFor_eq_nameFor_iff

/-- A capital sigma at the cut is a final one, though the name of the definition goes on. -/
example : nameFor .post "AAAAAAAAAAAAAAAAAAAAAAAAAAAAAAAΣA" 7
    = "post-aaaaaaaaaaaaaaaaaaaaaaaaaaaaaaaς-10007" := by decide +kernel

/-- Parts may hold dashes and more characters than were cut off. -/
example : NameParts.read? (nameFor .pre "-\u0130-" 90007)
    = some ⟨.pre, "-i\u0307-", "10007"⟩ := by decide +kernel

end Task

end DeployChecks
