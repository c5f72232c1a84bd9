import DeployChecks.Timestamp.Basic
import Mathlib.Data.Nat.Digits.Defs
import Mathlib.Data.List.TakeDrop

/-!
# Proofs/Codec/Digits — written numbers

A number is written with its digits and without a zero in front; to a width, with as many zeros in
front as are missing.  Either way the digits have the value of the number.
-/

namespace DeployChecks

/-- Only zero starts with a zero. -/
theorem eq_zero_of_toDigits {n : Nat} : ∀ {rest : List Char},
    Nat.toDigits 10 n = '0' :: rest → n = 0 := by
  have digits : ∀ d < 10, Nat.digitChar d = '0' → d = 0 := by decide
  induction n using Nat.strongRecOn with
  | ind n ih =>
    intro rest starts
    by_cases small : n < 10
    · rw [Nat.toDigits_of_lt_base small] at starts
      exact digits n small (List.cons.inj starts).1
    · rw [Nat.toDigits_of_base_le (by decide) (Nat.not_lt.1 small)] at starts
      obtain ⟨c, front, split⟩ :=
        List.exists_cons_of_ne_nil (Nat.toDigits_ne_nil (n := n / 10) (b := 10))
      rw [split, List.cons_append] at starts
      obtain ⟨rfl, -⟩ := List.cons.inj starts
      have := ih (n / 10) (by omega) split
      omega

theorem isDigit_toDigits {n : Nat} : ∀ c ∈ Nat.toDigits 10 n, c.isDigit = true :=
  fun _ mem => Nat.isDigit_of_mem_toDigits (by decide) (by decide) mem

/-- A written number starts with a digit. -/
theorem exists_cons_toDigits (n : Nat) :
    ∃ c cs, Nat.toDigits 10 n = c :: cs ∧ c.isDigit = true := by
  obtain ⟨c, cs, split⟩ := List.exists_cons_of_ne_nil (Nat.toDigits_ne_nil (n := n) (b := 10))
  exact ⟨c, cs, split, isDigit_toDigits (n := n) c (split ▸ List.mem_cons_self)⟩

theorem value_toDigits (n : Nat) : Nat.ofDigitChars 10 (Nat.toDigits 10 n) 0 = n :=
  Nat.ofDigitChars_toDigits (by decide) (by decide)

namespace Timestamp

variable {width n : Nat}

theorem isDigit_padded : ∀ c ∈ padded width n, c.isDigit = true := by
  intro c mem
  obtain zero | digit := List.mem_append.1 mem
  · rw [List.eq_of_mem_replicate zero]
    rfl
  · exact isDigit_toDigits c digit

theorem padded_ne_nil (width n : Nat) : padded width n ≠ [] :=
  List.append_ne_nil_of_right_ne_nil _ Nat.toDigits_ne_nil

/-- It still starts with a digit with zeros in front. -/
theorem exists_cons_padded (width n : Nat) :
    ∃ c cs, padded width n = c :: cs ∧ c.isDigit = true := by
  obtain ⟨c, cs, split⟩ := List.exists_cons_of_ne_nil (padded_ne_nil width n)
  exact ⟨c, cs, split, isDigit_padded c (split ▸ List.mem_cons_self)⟩

/-- **Zeros in front do not count.** -/
theorem value_padded : Nat.ofDigitChars 10 (padded width n) 0 = n := by
  have zeros : ∀ k : Nat, Nat.ofDigitChars 10 (List.replicate k '0') 0 = 0 := by
    intro k
    induction k with
    | zero => rfl
    | succ k ih => rwa [List.replicate_succ, Nat.ofDigitChars_cons]
  rw [padded, Nat.ofDigitChars_append, zeros, value_toDigits]

theorem length_padded (positive : 0 < width) (fits : n < 10 ^ width) :
    (padded width n).length = width := by
  have short := (Nat.length_toDigits_le_iff (by decide) positive).2 fits
  rw [padded, List.length_append, List.length_replicate, Nat.sub_add_cancel short]

end Timestamp

end DeployChecks
