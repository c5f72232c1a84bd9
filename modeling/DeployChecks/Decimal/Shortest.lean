import DeployChecks.Decimal.Binary64

/-!
# Decimal/Shortest — the fewest digits that read back

A positive double `m * 2 ^ q` is the nearest double of every number in an interval around it.  Of
the decimals in that interval the shortest is taken, and of two as short the nearer.  Main
definitions: `Span` (the interval), `shortest`.
-/

namespace DeployChecks

namespace Decimal

/-- **A decimal number** `digits * 10 ^ exponent`. -/
structure Scientific where
  /-- The digits, read as one number. -/
  digits : Nat
  /-- The power of ten. -/
  exponent : Int
  deriving DecidableEq, Repr

/-- **The numbers that round to a double.**  All three are counted in quarters of the double's
last binary place, that is in units of `num / den`. -/
structure Span where
  /-- The lower end. -/
  low : Nat
  /-- The double itself. -/
  value : Nat
  /-- The upper end. -/
  high : Nat
  /-- Numerator of the unit. -/
  num : Nat
  /-- Denominator of the unit. -/
  den : Nat
  /-- The ends belong to the span. -/
  closed : Bool

/-- The span of `m * 2 ^ q`: below the least mantissa of its binade the spacing is halved. -/
def Span.of (m : Nat) (q : Int) : Span where
  low := if m = twoTo 52 && -1074 < q then 4 * m - 1 else 4 * m - 2
  value := 4 * m
  high := 4 * m + 2
  num := twoTo (q - 2).toNat
  den := twoTo (2 - q).toNat
  closed := m % 2 == 0

/-- The decimal lies in the span. -/
def Span.holds (s : Span) (x : Scientific) : Bool :=
  let c := x.digits * tenTo x.exponent.toNat * s.den
  let u := tenTo (-x.exponent).toNat * s.num
  if s.closed then s.low * u ≤ c && c ≤ s.high * u else s.low * u < c && c < s.high * u

/-- The place of the leading digit of the quotient `num / den`, both positive. -/
def leadingPlace (num den : Nat) : Int :=
  if den ≤ num then ((Nat.toDigits 10 (num / den)).length : Int) - 1
  else
    let k := (Nat.toDigits 10 (den / num)).length
    if num * tenTo (k - 1) = den then -((k : Int) - 1) else -(k : Int)

/-- **The decimal of `n` digits nearest to the double**, where one lies in its span.  Only the two
neighbours of the double on that grid can be it. -/
def Span.nearest? (s : Span) (place : Int) (n : Nat) : Option Scientific :=
  let k : Int := place - n + 1
  let c := s.value * s.num * tenTo (-k).toNat
  let u := s.den * tenTo k.toNat
  let d := c / u
  let r := c % u
  let down : Scientific := ⟨d, k⟩
  let up : Scientific := ⟨d + 1, k⟩
  match s.holds down, s.holds up with
  | true, true => some (if 2 * r < u || (2 * r == u && d % 2 == 0) then down else up)
  | true, false => some down
  | false, true => some up
  | false, false => none

/-- Try `fuel` digit counts from `n` on. -/
def Span.search (s : Span) (place : Int) (n : Nat) : Nat → Scientific
  | 0 => ⟨s.value, 0⟩
  | fuel + 1 =>
    match s.nearest? place n with
    | some x => x
    | none => s.search place (n + 1) fuel

/-- Zeros at the end of the digits go into the exponent. -/
def Scientific.strip (x : Scientific) : Nat → Scientific
  | 0 => x
  | fuel + 1 =>
    if x.digits % 10 = 0 && x.digits ≠ 0 then Scientific.strip ⟨x.digits / 10, x.exponent + 1⟩ fuel
    else x

/-- **The shortest decimal of a positive double** `m * 2 ^ q`; seventeen digits always suffice. -/
def shortest (m : Nat) (q : Int) : Scientific :=
  let s := Span.of m q
  let place := leadingPlace (s.value * s.num) s.den
  (s.search place 1 17).strip 18

end Decimal

end DeployChecks
