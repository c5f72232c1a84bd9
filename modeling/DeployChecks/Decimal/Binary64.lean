import DeployChecks.Decimal.Power

/-!
# Decimal/Binary64 — double-precision numbers in exact arithmetic

A double is its sixty-four bits; what it stands for is read off them, and every operation is a
rational computation followed by one rounding to the nearest double, ties to the even one.  Main
definitions: `Binary64.view`, `Binary64.ofRatio`, `Binary64.le`.
-/

namespace DeployChecks

/-- **A double-precision number**, held as its bits. -/
structure Binary64 where
  /-- Sign, exponent and fraction, from the highest bit down. -/
  bits : UInt64
  deriving DecidableEq, Repr

namespace Binary64

/-- **What a double stands for.** -/
inductive View where
  /-- Not a number. -/
  | nan
  /-- An infinity. -/
  | infinite (negative : Bool)
  /-- The number `mantissa * 2 ^ exponent`, with its sign. -/
  | finite (negative : Bool) (mantissa : Nat) (exponent : Int)
  deriving DecidableEq, Repr

/-- The sign bit. -/
def negative (x : Binary64) : Bool := twoTo 63 ≤ x.bits.toNat

/-- The bits below the sign. -/
def magnitude (x : Binary64) : Nat := x.bits.toNat % twoTo 63

/-- **Reading the bits.** -/
def view (x : Binary64) : View :=
  let e : Nat := x.magnitude / twoTo 52
  let f : Nat := x.magnitude % twoTo 52
  if e = 2047 then
    if f = 0 then .infinite x.negative else .nan
  else if e = 0 then .finite x.negative f (-1074)
  else .finite x.negative (twoTo 52 + f) ((e : Int) - 1075)

/-- The double with the given sign and the given bits below it. -/
def ofMagnitude (negative : Bool) (magnitude : Nat) : Binary64 :=
  ⟨UInt64.ofNat ((if negative then twoTo 63 else 0) + magnitude)⟩

/-- The bits below the sign of an infinity. -/
def infiniteMagnitude : Nat := 2047 * twoTo 52

/-- An infinity. -/
def infinity (negative : Bool) : Binary64 := ofMagnitude negative infiniteMagnitude

/-- A zero. -/
def zero (negative : Bool) : Binary64 := ofMagnitude negative 0

/-- The double that is not a number. -/
def nan : Binary64 := ofMagnitude false (infiniteMagnitude + twoTo 51)

/-- **Division rounded to nearest**, ties to even. -/
def divNearest (num den : Nat) : Nat :=
  let q := num / den
  let r := num % den
  if den < 2 * r || (2 * r == den && q % 2 == 1) then q + 1 else q

/-- The least exponent `e ≥ -1074` for which `num / den < 2 ^ (e + 53)`. -/
def unitExponent (num den : Nat) : Int :=
  let guess : Int := (num.log2 : Int) - den.log2 - 53
  let fits (e : Int) : Bool := num * twoTo (-(e + 53)).toNat < den * twoTo (e + 53).toNat
  let least := if fits guess then guess else guess + 1
  max (-1074) least

/-- **Rounding a quotient** to the nearest double; too large a quotient becomes infinite. -/
def ofRatio (negative : Bool) (num den : Nat) : Binary64 :=
  if num = 0 then zero negative
  else
    let e := unitExponent num den
    let q := divNearest (num * twoTo (-e).toNat) (den * twoTo e.toNat)
    ofMagnitude negative (min infiniteMagnitude ((e + 1074).toNat * twoTo 52 + q))

/-- The nearest double of `mantissa * 2 ^ exponent`. -/
def ofScaled (negative : Bool) (mantissa : Nat) (exponent : Int) : Binary64 :=
  ofRatio negative (mantissa * twoTo exponent.toNat) (twoTo (-exponent).toNat)

/-- The nearest double of `digits * 10 ^ exponent`. -/
def ofDecimal (negative : Bool) (digits : Nat) (exponent : Int) : Binary64 :=
  let size : Int := (Nat.toDigits 10 digits).length
  if digits = 0 || size + exponent < -400 then zero negative
  else if 400 < size + exponent then infinity negative
  else ofRatio negative (digits * tenTo exponent.toNat) (tenTo (-exponent).toNat)

/-- The nearest double of an integer. -/
def ofInt (n : Int) : Binary64 := ofRatio (n < 0) n.natAbs 1

/-- The same number with the other sign. -/
def neg (x : Binary64) : Binary64 := ofMagnitude (!x.negative) x.magnitude

/-- The product of two finite numbers. -/
def mul (x y : Binary64) : Binary64 :=
  match x.view, y.view with
  | .finite s m e, .finite t n f => ofScaled (s != t) (m * n) (e + f)
  | _, _ => nan

/-- The quotient of two finite numbers, the second not zero. -/
def div (x y : Binary64) : Binary64 :=
  match x.view, y.view with
  | .finite s m e, .finite t n f =>
    let d := e - f
    ofRatio (s != t) (m * twoTo d.toNat) (n * twoTo (-d).toNat)
  | _, _ => nan

/-- The number is finite. -/
def isFinite (x : Binary64) : Bool := x.magnitude < infiniteMagnitude

/-- The number is not a number. -/
def isNaN (x : Binary64) : Bool := infiniteMagnitude < x.magnitude

/-- The number is a zero of either sign. -/
def isZero (x : Binary64) : Bool := x.magnitude == 0

/-- The place of a number in the order; the two zeros share theirs. -/
def key (x : Binary64) : Int := if x.negative then -(x.magnitude : Int) else x.magnitude

/-- **The order**; nothing is above or below a number that is none. -/
def le (x y : Binary64) : Bool := !x.isNaN && !y.isNaN && x.key ≤ y.key

/-- One. -/
def one : Binary64 := ofInt 1

/-- The whole part of a product with a power of two, zero for negative numbers. -/
def floorScaled (x : Binary64) (power : Int) : Nat :=
  match x.view with
  | .finite false m e => (m * twoTo (e + power).toNat) / twoTo (-(e + power)).toNat
  | _ => 0

/-- **The nearest count below `limit`**, halves upwards: what is negative or no number counts
zero, what is too large counts `limit`. -/
def toCount (limit : Nat) (x : Binary64) : Nat :=
  match x.view with
  | .nan => 0
  | .infinite s => if s then 0 else limit
  | .finite true _ _ => 0
  | .finite false m e =>
    min limit ((2 * m * twoTo e.toNat + twoTo (-e).toNat) / (2 * twoTo (-e).toNat))

end Binary64

end DeployChecks
