import DeployChecks.Text.Range

/-!
# Text/Blank — white space and trimming

The class is the Unicode property `White_Space`.  Main definitions: `isBlank`, `trim` and
`blank`, which holds of a text without anything else.
-/

namespace DeployChecks

namespace Text

/-- The ranges of the property `White_Space`. -/
def blankRanges : List Range :=
  [(9, 13), (32, 32), (133, 133), (160, 160), (5760, 5760), (8192, 8202), (8232, 8233),
   (8239, 8239), (8287, 8287), (12288, 12288)]

/-- The character is white space. -/
def isBlank (c : Char) : Bool := inRanges blankRanges c

/-- Drop white space in front. -/
def trimLeft (cs : List Char) : List Char := cs.dropWhile isBlank

/-- Drop white space at the end. -/
def trimRight (cs : List Char) : List Char := (cs.reverse.dropWhile isBlank).reverse

/-- Drop white space at both ends. -/
def trim (cs : List Char) : List Char := trimRight (trimLeft cs)

/-- The text holds nothing but white space. -/
def blank (s : String) : Bool := s.toList.all isBlank

/-- **Every blank of the ASCII class is a blank.** -/
theorem isBlank_of_isWhitespace {c : Char} (h : c.isWhitespace = true) : isBlank c = true := by
  simp only [Char.isWhitespace, Bool.or_eq_true, decide_eq_true_eq] at h
  rcases h with ((h | h) | h) | h <;> subst h <;> decide

@[simp] theorem trim_nil : trim [] = [] := rfl

end Text

end DeployChecks
