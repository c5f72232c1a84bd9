import DeployChecks.Text.Lowercase
import Mathlib.Data.List.Basic

/-!
# Proofs/Text/Lowercase — what is lower case stays as it is

No small letter is a capital: the images of a run of capitals are outside every run, or fall between
its members (`CapitalRun.IsApart`).  So every character of a text in lower case is its own lower
case, wherever it stands (`isSmall_of_mem_lowerChars`), and so is every text of such characters.
Main definition: `IsSmall`; main statement: `lowercase_lowercase`.
-/

namespace DeployChecks

namespace Text

/-! ## Runs of capitals -/

namespace CapitalRun

/-- The small letter of a capital. -/
def image (r : CapitalRun) (n : Nat) : Nat := ((n : Int) + r.shift).toNat

/-- Every second code point at most is a capital of the run. -/
def isThin (r : CapitalRun) : Bool := r.stride == 2 || r.first == r.last

/-- **The small letters of a run are no capitals of another**: they stand behind it, before it, or
between its members. -/
def isApart (r r' : CapitalRun) : Bool :=
  r'.last.blt (r.image r.first) || (r.image r.last).blt r'.first ||
    (r.isThin && r'.isThin && (r.image r.first + r'.first) % 2 == 1)

/-- The small letters of a run are characters. -/
def isValid (r : CapitalRun) : Bool :=
  0 ≤ (r.first : Int) + r.shift &&
    ((r.image r.last).blt 0xD800 ||
      Nat.blt 0xDFFF (r.image r.first) && (r.image r.last).blt 0x110000)

variable {r r' : CapitalRun} {n : Nat}

theorem contains_iff :
    r.contains n = true ↔ r.first ≤ n ∧ n ≤ r.last ∧ (n - r.first) % r.stride = 0 := by
  simp [contains, and_assoc]

/-- The members of a thin run have one parity. -/
theorem even_of_isThin (thin : r.isThin = true) (mem : r.contains n = true) :
    (n - r.first) % 2 = 0 := by
  obtain ⟨above, below, multiple⟩ := contains_iff.1 mem
  rcases (Bool.or_eq_true _ _).mp thin with thin | single
  · rwa [beq_iff_eq.1 thin] at multiple
  · rw [← beq_iff_eq.1 single] at below
    omega

theorem not_contains_image (valid : r.isValid = true) (apart : r.isApart r' = true)
    (mem : r.contains n = true) : r'.contains (r.image n) = false := by
  rw [Bool.eq_false_iff]
  intro mem'
  obtain ⟨above, below, -⟩ := contains_iff.1 mem
  obtain ⟨above', below', -⟩ := contains_iff.1 mem'
  have natural := of_decide_eq_true ((Bool.and_eq_true _ _).mp valid).1
  simp only [isApart, Bool.or_eq_true, Bool.and_eq_true, Nat.blt_eq, beq_iff_eq, image] at apart
  rw [image] at above' below'
  obtain (behind | before) | ⟨⟨thin, thin'⟩, odd⟩ := apart
  · omega
  · omega
  · have even := even_of_isThin thin mem
    have even' := even_of_isThin thin' mem'
    rw [image] at even'
    omega

theorem isValidChar_image (valid : r.isValid = true) (mem : r.contains n = true) :
    (r.image n).isValidChar := by
  obtain ⟨above, below, -⟩ := contains_iff.1 mem
  simp only [isValid, Bool.and_eq_true, Bool.or_eq_true, decide_eq_true_eq, Nat.blt_eq,
    image] at valid
  rw [image, Nat.isValidChar]
  omega

end CapitalRun

/-- No small letter is a capital. -/
theorem capitalRuns_apart :
    (capitalRuns.all fun r => capitalRuns.all r.isApart) = true := by decide +kernel

/-- Small letters are characters, and none is one of the two capitals that need more than a
table. -/
theorem capitalRuns_valid : (capitalRuns.all fun r => r.isValid &&
    r.isApart ⟨dottedCapitalI.toNat, dottedCapitalI.toNat, 1, 0⟩ &&
    r.isApart ⟨capitalSigma.toNat, capitalSigma.toNat, 1, 0⟩) = true := by decide +kernel

/-! ## Characters that are left as they are -/

/-- **A character that is its own lower case**, wherever it stands. -/
structure IsSmall (c : Char) : Prop where
  /-- It is its own lower case where no context counts. -/
  small : lowerChar c = [c]
  /-- No context counts. -/
  plain : c ≠ capitalSigma

variable {c d : Char} {cs before : List Char} {s : String}

/-- A character in no run that needs more than a table neither is its own lower case. -/
theorem lowerChar_of_not_contains (undotted : c ≠ dottedCapitalI)
    (outside : ∀ r ∈ capitalRuns, r.contains c.toNat = false) : lowerChar c = [c] := by
  have missing : capitalRuns.find? (·.contains c.toNat) = none :=
    List.find?_eq_none.2 fun r mem => by simp [outside r mem]
  rw [lowerChar, if_neg undotted, lowerImage?, missing]
  rfl

/-- Among the first characters only capitals are lowered. -/
theorem isSmall_of_ascii (ascii : c.toNat < 65 ∨ 90 < c.toNat ∧ c.toNat < 128) : IsSmall c where
  small := by
    have apart : ∀ r ∈ capitalRuns, 65 ≤ r.first ∧ (r.last ≤ 90 ∨ 128 ≤ r.first) := by
      decide +kernel
    refine lowerChar_of_not_contains ?_ fun r mem => ?_
    · rintro rfl
      exact absurd ascii (by decide)
    · rw [Bool.eq_false_iff]
      intro inside
      have := apart r mem
      have := CapitalRun.contains_iff.1 inside
      omega
  plain := by
    rintro rfl
    exact absurd ascii (by decide)

/-- Below the letters there is nothing to lower. -/
theorem isSmall_of_low (low : c.toNat < 65) : IsSmall c := isSmall_of_ascii (.inl low)

/-- **The lower case of a character** is its own lower case. -/
theorem isSmall_of_mem_lowerChar (plain : c ≠ capitalSigma) (mem : d ∈ lowerChar c) :
    IsSmall d := by
  by_cases dotted : c = dottedCapitalI
  · rw [lowerChar, if_pos dotted, List.mem_pair] at mem
    rcases mem with rfl | rfl
    · exact ⟨by decide +kernel, by decide⟩
    · exact ⟨by decide +kernel, by decide⟩
  · cases found : capitalRuns.find? (·.contains c.toNat) with
    | none =>
      have small : lowerChar c = [c] := by
        refine lowerChar_of_not_contains dotted fun r mem => ?_
        simpa using List.find?_eq_none.1 found r mem
      rw [small, List.mem_singleton] at mem
      subst mem
      exact ⟨small, plain⟩
    | some r =>
      have mem_run := List.mem_of_find?_eq_some found
      have inside : r.contains c.toNat = true := by simpa using List.find?_some found
      have apart := List.all_eq_true.1 (List.all_eq_true.1 capitalRuns_apart r mem_run)
      have sound := List.all_eq_true.1 capitalRuns_valid r mem_run
      simp only [Bool.and_eq_true] at sound
      obtain ⟨⟨valid, undotted⟩, plain⟩ := sound
      rw [lowerChar, if_neg dotted, lowerImage?, found] at mem
      obtain rfl : d = Char.ofNat (r.image c.toNat) := List.mem_singleton.1 mem
      have code : (Char.ofNat (r.image c.toNat)).toNat = r.image c.toNat := by
        rw [Char.ofNat, dif_pos (CapitalRun.isValidChar_image valid inside)]
        rfl
      have other (x : Char) (apart : r.isApart ⟨x.toNat, x.toNat, 1, 0⟩ = true) :
          Char.ofNat (r.image c.toNat) ≠ x := by
        rintro rfl
        have outside := CapitalRun.not_contains_image valid apart inside
        rw [← code] at outside
        simp [CapitalRun.contains] at outside
      refine ⟨lowerChar_of_not_contains (other _ undotted) fun r' mem' => ?_, other _ plain⟩
      rw [code]
      exact CapitalRun.not_contains_image valid (apart r' mem') inside

theorem isSmall_lowerSigma (before after : List Char) : IsSmall (lowerSigma before after) := by
  rw [lowerSigma]
  split
  · exact ⟨by decide +kernel, by decide⟩
  · exact ⟨by decide +kernel, by decide⟩

/-! ## Texts that are left as they are -/

theorem isSmall_of_mem_lowerAfter (mem : d ∈ lowerAfter before cs) : IsSmall d := by
  induction cs generalizing before with
  | nil => cases mem
  | cons c cs ih =>
    rw [lowerAfter, List.mem_append] at mem
    rcases mem with here | later
    · split at here
      · exact List.mem_singleton.1 here ▸ isSmall_lowerSigma before cs
      · next plain => exact isSmall_of_mem_lowerChar plain here
    · exact ih later

/-- **Every character of a text in lower case** is its own lower case. -/
theorem isSmall_of_mem_lowercase (mem : d ∈ (lowercase s).toList) : IsSmall d := by
  rw [toList_lowercase] at mem
  exact isSmall_of_mem_lowerAfter mem

theorem lowerAfter_of_small (small : ∀ c ∈ cs, IsSmall c) : lowerAfter before cs = cs := by
  induction cs generalizing before with
  | nil => rfl
  | cons c cs ih =>
    obtain ⟨here, small⟩ := List.forall_mem_cons.1 small
    rw [lowerAfter, if_neg here.plain, here.small, ih small, List.singleton_append]

theorem lowercase_of_small (small : ∀ c ∈ s.toList, IsSmall c) : lowercase s = s := by
  refine String.toList_injective ?_
  rw [toList_lowercase]
  exact lowerAfter_of_small small

/-- **What is in lower case stays as it is.** -/
theorem lowercase_lowercase (s : String) : lowercase (lowercase s) = lowercase s :=
  lowercase_of_small fun _ mem => isSmall_of_mem_lowercase mem

end Text

end DeployChecks
