import DeployChecks.Decimal.Shortest

/-!
# Decimal/Layout — how the digits of a double are set out

The digits come from `shortest`; a layout decides where the point stands and when a power of ten
is written.  Main definitions: `Layout`, `Layout.write`, and the three layouts in use:
`plain`, `exchange`, `inspection`.
-/

namespace DeployChecks

namespace Decimal

/-- **The decisions of a number format.** -/
structure Layout where
  /-- Exponents of the leading digit that are written out by place. -/
  positional : Int → Bool
  /-- Whole numbers keep `.0`. -/
  keepPoint : Bool
  /-- The text between the digits and a positive exponent. -/
  mark : String

/-- **Whole numbers bare, no exponent ever.** -/
def plain : Layout := ⟨fun _ => true, false, ""⟩

/-- **The form in data exchange**: by place from `1e-5` to below `1e16`, exponents with a sign. -/
def exchange : Layout := ⟨fun e => -5 ≤ e && e ≤ 15, true, "e+"⟩

/-- **The form shown on inspection**: by place from `1e-4` to below `1e16`. -/
def inspection : Layout := ⟨fun e => -4 ≤ e && e ≤ 15, true, "e"⟩

/-- A decimal number by place, its digits given as text. -/
def byPlace (keepPoint : Bool) (digits : List Char) (exponent : Int) : List Char :=
  let whole : Int := digits.length + exponent
  if 0 ≤ exponent then
    digits ++ List.replicate exponent.toNat '0' ++ (if keepPoint then ['.', '0'] else [])
  else if 0 < whole then digits.take whole.toNat ++ '.' :: digits.drop whole.toNat
  else ['0', '.'] ++ List.replicate (-whole).toNat '0' ++ digits

/-- A decimal number with one digit before the point and a power of ten. -/
def byPower (mark : String) (digits : List Char) (exponent : Int) : List Char :=
  let head := digits.take 1 ++ (if digits.length ≤ 1 then [] else '.' :: digits.drop 1)
  head ++ (if 0 ≤ exponent then mark.toList else ['e', '-']) ++ Nat.toDigits 10 exponent.natAbs

/-- **Writing** a decimal number by a layout. -/
def Layout.writeDigits (l : Layout) (x : Scientific) : List Char :=
  let digits := Nat.toDigits 10 x.digits
  let lead : Int := digits.length + x.exponent - 1
  if l.positional lead then byPlace l.keepPoint digits x.exponent
  else byPower l.mark digits lead

/-- **Writing** a double by a layout. -/
def Layout.write (l : Layout) (x : Binary64) : String :=
  let sign (s : Bool) : List Char := if s then ['-'] else []
  match x.view with
  | .nan => "NaN"
  | .infinite s => String.ofList (sign s ++ ['i', 'n', 'f'])
  | .finite s m q =>
    String.ofList (sign s ++ l.writeDigits (if m = 0 then ⟨0, 0⟩ else shortest m q))

end Decimal

end DeployChecks
