import DeployChecks.Text.CaseTable

/-!
# Text/Lowercase — full lower-casing

Each character maps to its lower case on its own, except two: the dotted capital I becomes two
characters, and the capital sigma becomes a final sigma at the end of a word.  Main definition:
`lowercase`.
-/

namespace DeployChecks

namespace Text

/-- The capital sigma. -/
def capitalSigma : Char := 'Σ'

/-- The capital I with a dot above. -/
def dottedCapitalI : Char := 'İ'

/-- **The word goes on**: looking through ignorable characters, the next one is cased. -/
def meetsCased (cs : List Char) : Bool :=
  match cs.dropWhile isCaseIgnorable with
  | [] => false
  | c :: _ => isCased c

/-- **Lower case of one character** that needs no context. -/
def lowerChar (c : Char) : List Char :=
  if c = dottedCapitalI then ['i', Char.ofNat 0x307]
  else match lowerImage? c.toNat with
    | some n => [Char.ofNat n]
    | none => [c]

/-- **Lower case of a sigma**: final when a cased character stands before it and none after. -/
def lowerSigma (before after : List Char) : Char :=
  if meetsCased before && !meetsCased after then 'ς' else 'σ'

/-- Lower-casing with the characters already passed, latest first. -/
def lowerAfter (before : List Char) : List Char → List Char
  | [] => []
  | c :: rest =>
    (if c = capitalSigma then [lowerSigma before rest] else lowerChar c)
      ++ lowerAfter (c :: before) rest

/-- **Full lower-casing** of a list of characters. -/
def lowerChars (cs : List Char) : List Char := lowerAfter [] cs

/-- **Full lower-casing** of a text. -/
def lowercase (s : String) : String := String.ofList (lowerChars s.toList)

@[simp] theorem lowerChars_nil : lowerChars [] = [] := rfl

@[simp] theorem toList_lowercase (s : String) : (lowercase s).toList = lowerChars s.toList := by
  simp [lowercase]

end Text

end DeployChecks
