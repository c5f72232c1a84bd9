/-!
# Text/Range — classes of characters as ranges of code points

A property of characters is held as the list of its ranges.  Main definition: `inRanges`, which
decides membership.
-/

namespace DeployChecks

namespace Text

/-- **A range of code points**, both ends included. -/
abbrev Range := Nat × Nat

/-- The code point `n` lies in the range. -/
def Range.contains (r : Range) (n : Nat) : Bool := r.1 ≤ n && n ≤ r.2

/-- **Membership in a class**: some range of the table holds the character. -/
def inRanges (table : List Range) (c : Char) : Bool := table.any (·.contains c.toNat)

theorem inRanges_iff {table : List Range} {c : Char} :
    inRanges table c = true ↔ ∃ r ∈ table, r.1 ≤ c.toNat ∧ c.toNat ≤ r.2 := by
  simp [inRanges, Range.contains]

@[simp] theorem inRanges_nil (c : Char) : inRanges [] c = false := rfl

theorem inRanges_cons (r : Range) (table : List Range) (c : Char) :
    inRanges (r :: table) c = (r.contains c.toNat || inRanges table c) := rfl

end Text

end DeployChecks
