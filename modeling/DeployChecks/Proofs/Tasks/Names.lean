import DeployChecks.Proofs.Codec.Digits
import DeployChecks.Proofs.Text.Lowercase
import DeployChecks.Task.Name

/-!
# Proofs/Tasks/Names — the parts of a task's name

The lower case of a character may depend on its neighbours, but not across a character that is
neither cased nor looked through.  A dash is such a character, so the parts of a name are lowered
as if each stood alone, and the digits at the end are left as they are.  Main statements:
`lowerChars_append_cons` and `Task.nameFor_eq`.
-/

namespace DeployChecks

namespace Text

/-- **A character at which words end**, its own lower case. -/
structure IsBoundary (c : Char) : Prop where
  /-- It has no case. -/
  uncased : isCased c = false
  /-- Case rules do not look through it. -/
  solid : isCaseIgnorable c = false
  /-- It is its own lower case. -/
  small : lowerChar c = [c]

variable {b : Char} {before cs front rest : List Char}

theorem isBoundary_dash : IsBoundary '-' where
  uncased := by decide +kernel
  solid := by decide +kernel
  small := (isSmall_of_low (by decide)).small

/-! ## Words do not reach over a boundary -/

theorem meetsCased_boundary (boundary : IsBoundary b) :
    meetsCased (cs ++ b :: rest) = meetsCased cs := by
  induction cs with
  | nil =>
    rw [meetsCased, List.nil_append, List.dropWhile_cons, boundary.solid, if_neg Bool.false_ne_true]
    exact boundary.uncased
  | cons c cs ih =>
    rw [meetsCased, meetsCased, List.cons_append]
    by_cases through : isCaseIgnorable c = true
    · rw [List.dropWhile_cons_of_pos through, List.dropWhile_cons_of_pos through]
      exact ih
    · rw [List.dropWhile_cons_of_neg through, List.dropWhile_cons_of_neg through]

/-- What was passed before a boundary does not count. -/
theorem lowerAfter_boundary (boundary : IsBoundary b) :
    lowerAfter (front ++ b :: before) cs = lowerAfter front cs := by
  induction cs generalizing front with
  | nil => rfl
  | cons c cs ih =>
    rw [lowerAfter, lowerAfter, lowerSigma, lowerSigma, meetsCased_boundary boundary,
      ← List.cons_append, ih]

/-- What comes behind a boundary does not count either. -/
theorem lowerAfter_append_cons (boundary : IsBoundary b) :
    lowerAfter before (cs ++ b :: rest) = lowerAfter before cs ++ b :: lowerChars rest := by
  have plain : b ≠ capitalSigma := by
    rintro rfl
    exact absurd boundary.uncased (by decide)
  -- what was passed grows along the text, and is forgotten at the boundary
  induction cs generalizing before with
  | nil =>
    have fresh : lowerAfter ([] ++ b :: before) rest = lowerChars rest :=
      lowerAfter_boundary boundary
    rw [List.nil_append, lowerAfter, lowerAfter, if_neg plain, boundary.small, List.nil_append,
      ← fresh]
    rfl
  | cons c cs ih =>
    rw [List.cons_append, lowerAfter, lowerAfter, lowerSigma, lowerSigma,
      meetsCased_boundary boundary, ih, List.append_assoc]

/-- **Both sides of a boundary are lowered on their own.** -/
theorem lowerChars_append_cons (boundary : IsBoundary b) :
    lowerChars (cs ++ b :: rest) = lowerChars cs ++ b :: lowerChars rest :=
  lowerAfter_append_cons boundary

theorem lowercase_dash (s t : String) :
    lowercase (s ++ "-" ++ t) = lowercase s ++ "-" ++ lowercase t := by
  refine String.toList_injective ?_
  have cut : lowerChars (s.toList ++ '-' :: t.toList)
      = lowerChars s.toList ++ '-' :: lowerChars t.toList := lowerChars_append_cons isBoundary_dash
  simpa using cut

theorem lowercase_toString (n : Nat) : lowercase (toString n) = toString n := by
  refine lowercase_of_small fun c mem => isSmall_of_low ?_
  rw [Nat.toString_eq_repr, Nat.toList_repr] at mem
  exact (Char.isDigit_iff_toNat.1 (isDigit_toDigits c mem)).2.trans_lt (by decide)

end Text

namespace Task

/-- **A name without its number.** -/
def stem (group : CheckGroup) (definition : String) : String :=
  s!"{group.tag}-{Text.lowercase (String.ofList (definition.toList.take fragmentLength))}-"

/-- **A name is a stem and a number.**  Only the number depends on the draw. -/
theorem nameFor_eq (group : CheckGroup) (definition : String) (draw : Nat) :
    nameFor group definition draw = stem group definition ++ toString (suffixOf draw) := by
  have tag : Text.lowercase group.tag = group.tag := by
    cases group <;> decide +kernel
  let fragment := String.ofList (definition.toList.take fragmentLength)
  calc Text.lowercase (group.tag ++ "-" ++ fragment ++ "-" ++ toString (suffixOf draw))
      = Text.lowercase group.tag ++ "-" ++ Text.lowercase fragment ++ "-"
          ++ Text.lowercase (toString (suffixOf draw)) := by
        rw [Text.lowercase_dash, Text.lowercase_dash]
    _ = stem group definition ++ toString (suffixOf draw) := by
        rw [tag, Text.lowercase_toString]
        rfl

end Task

end DeployChecks
