import DeployChecks.Decimal.Reading
import DeployChecks.Text.Hex

/-!
# Toml/Number — numbers

Integers of 64 bits in four bases and doubles, with underscores between digits.  Main definition:
`Toml.readNumber?`.
-/

namespace DeployChecks

namespace Toml

/-- **A number.** -/
inductive Number where
  /-- An integer. -/
  | int (n : Int)
  /-- A double. -/
  | double (x : Binary64)
  deriving DecidableEq, Repr

/-- The digits in front after another digit, each with at most one underscore before it. -/
def moreDigits (isDigit : Char → Bool) : List Char → List Char × List Char
  | [] => ([], [])
  | '_' :: c :: rest =>
    if isDigit c then
      let r := moreDigits isDigit rest
      (c :: r.1, r.2)
    else ([], '_' :: c :: rest)
  | c :: rest =>
    if isDigit c then
      let r := moreDigits isDigit rest
      (c :: r.1, r.2)
    else ([], c :: rest)

/-- At least one digit in front. -/
def readDigits? (isDigit : Char → Bool) : List Char → Option (List Char × List Char)
  | [] => none
  | c :: rest =>
    if isDigit c then
      let r := moreDigits isDigit rest
      some (c :: r.1, r.2)
    else none

/-- The digits of a whole number in front: a zero stands alone. -/
def readWhole? : List Char → Option (List Char × List Char)
  | '0' :: rest => some (['0'], rest)
  | cs => readDigits? Char.isDigit cs

/-- The digits after the point, if there is one. -/
def readFraction? : List Char → Option (Option (List Char) × List Char)
  | '.' :: rest => (readDigits? Char.isDigit rest).map fun r => (some r.1, r.2)
  | cs => some (none, cs)

/-- The power of ten, if there is one. -/
def readPower? : List Char → Option (Option Int × List Char)
  | [] => some (none, [])
  | c :: rest =>
    if c = 'e' || c = 'E' then
      let (minus, rest) := Decimal.readSign rest
      (readDigits? Char.isDigit rest).map fun r =>
        let n : Int := Decimal.digitsValue r.1
        (some (if minus then -n else n), r.2)
    else some (none, c :: rest)

/-- The integer fits into 64 bits. -/
def isWord (n : Int) : Bool := Int64.minValue.toInt ≤ n && n ≤ Int64.maxValue.toInt

/-- An integer in front with its digits in another base. -/
def readBased? (base : Nat) (cs : List Char) : Option (Number × List Char) :=
  let isDigit (c : Char) : Bool := (Text.hexDigit? c).any (· < base)
  (readDigits? isDigit cs).bind fun (digits, rest) =>
    let n := digits.foldl (fun n c => base * n + (Text.hexDigit? c).getD 0) 0
    if isWord n then some (.int n, rest) else none

/-- A decimal number in front, after its sign.  What is too large for a double is refused, but
only above zero. -/
def readDecimal? (minus : Bool) (cs : List Char) : Option (Number × List Char) :=
  (readWhole? cs).bind fun (whole, cs) =>
    (readFraction? cs).bind fun (fraction, cs) =>
      (readPower? cs).bind fun (power, cs) =>
        if fraction.isNone && power.isNone then
          let n : Int := Decimal.digitsValue whole
          let n := if minus then -n else n
          if isWord n then some (.int n, cs) else none
        else
          let fraction := fraction.getD []
          let x := Binary64.ofDecimal minus (Decimal.digitsValue (whole ++ fraction))
            (power.getD 0 - fraction.length)
          if x = .infinity false then none else some (.double x, cs)

/-- **A number in front.** -/
def readNumber? : List Char → Option (Number × List Char)
  | '0' :: 'x' :: rest => readBased? 16 rest
  | '0' :: 'o' :: rest => readBased? 8 rest
  | '0' :: 'b' :: rest => readBased? 2 rest
  | cs =>
    match Decimal.readSign cs with
    | (minus, 'i' :: 'n' :: 'f' :: rest) => some (.double (.infinity minus), rest)
    | (_, 'n' :: 'a' :: 'n' :: rest) => some (.double .nan, rest)
    | (minus, rest) => readDecimal? minus rest

end Toml

end DeployChecks
