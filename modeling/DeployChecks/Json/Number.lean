import DeployChecks.Json.Basic

/-!
# Json/Number — numbers from their spelling

An integer that fits into sixty-four bits is taken as it is.  Every other number is a double, made
in two roundings: the digits that fit into sixty-four bits become a double, which is multiplied
with or divided by a power of ten.  Main definitions: `Spelling`, `Spelling.number?`.
-/

namespace DeployChecks

namespace Json

/-- **A number as it is spelled.** -/
structure Spelling where
  /-- A minus sign stands in front. -/
  negative : Bool
  /-- The digits before the point. -/
  whole : List Char
  /-- The digits after the point, none if there is no point. -/
  fraction : List Char
  /-- The power of ten, as the presence of a minus sign and the digits. -/
  power : Option (Bool × List Char)

/-- The greatest number of sixty-four bits. -/
def wordMax : Nat := UInt64.size - 1

/-- Read digits after the number `n` while it fits into sixty-four bits; the rest is left. -/
def takeDigits (n : Nat) : List Char → Nat × List Char
  | [] => (n, [])
  | c :: rest =>
    let next := 10 * n + (c.toNat - '0'.toNat)
    if next ≤ wordMax then takeDigits next rest else (n, c :: rest)

/-- A power of ten as a double. -/
def powerOfTen (k : Nat) : Binary64 := .ofDecimal false 1 k

/-- Multiply with a power of ten, dividing by `1e308` at most `fuel` times on the way; nothing if
the result is too large. -/
def scale (x : Binary64) (power : Int) : Nat → Option Binary64
  | 0 => some x
  | fuel + 1 =>
    if power.natAbs ≤ 308 then
      if 0 ≤ power then
        let y := x.mul (powerOfTen power.natAbs)
        if y.isFinite then some y else none
      else some (x.div (powerOfTen power.natAbs))
    else if x.isZero then some x
    else if 0 ≤ power then none
    else scale (x.div (powerOfTen 308)) (power + 308) fuel

/-- The power of ten of a spelling: nothing if it is beyond thirty-two bits. -/
def powerValue? : Option (Bool × List Char) → Option Int
  | none => some 0
  | some (minus, digits) =>
    let n := Nat.ofDigitChars 10 digits 0
    if n < UInt32.size / 2 then some (if minus then -(n : Int) else n) else none

/-- The double of a spelling. -/
def Spelling.double? (s : Spelling) : Option Binary64 :=
  let (n, wholeLeft) := takeDigits 0 s.whole
  let (n, fractionLeft) := takeDigits n s.fraction
  let shift : Int := wholeLeft.length - (s.fraction.length - fractionLeft.length : Nat)
  let magnitude? : Option Binary64 := match powerValue? s.power with
    | some power => scale (.ofInt n) (shift + power) 4
    | none =>
      match s.power with
      | some (false, _) => if n = 0 then some (.zero false) else none
      | _ => some (.zero false)
  magnitude?.map fun x => if s.negative then x.neg else x

/-- **The number of a spelling**, nothing if it is too large for a double. -/
def Spelling.number? (s : Spelling) : Option Number :=
  let n := Nat.ofDigitChars 10 s.whole 0
  let bare := s.fraction.isEmpty && s.power.isNone
  if bare && !s.negative && n ≤ wordMax then some (.int n)
  else if bare && s.negative && n ≠ 0 && n ≤ UInt64.size / 2 then some (.int (-(n : Int)))
  else s.double?.map .double

end Json

end DeployChecks
