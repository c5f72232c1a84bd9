import DeployChecks.Decimal.Binary64

/-!
# Decimal/Reading — doubles from text

The whole text is one number: an optional sign, then digits with an optional point and power of
ten, or the word for an infinity or for no number.  Main definitions: `read?`, and `readCount?` and
`readInt?` for whole numbers.
-/

namespace DeployChecks

namespace Decimal

/-- The digits in front and what follows them. -/
def spanDigits (cs : List Char) : List Char × List Char := cs.span Char.isDigit

/-- The number that a run of digits stands for. -/
def digitsValue (cs : List Char) : Nat := Nat.ofDigitChars 10 cs 0

/-- An optional sign and what follows it. -/
def readSign : List Char → Bool × List Char
  | '-' :: rest => (true, rest)
  | '+' :: rest => (false, rest)
  | cs => (false, cs)

/-- The power of ten at the end of a number: nothing, or the mark, a sign and at least one
digit. -/
def readPower? : List Char → Option Int
  | [] => some 0
  | c :: rest =>
    if c = 'e' || c = 'E' then
      let (minus, rest) := readSign rest
      if rest.isEmpty || !rest.all Char.isDigit then none
      else
        let n : Int := digitsValue rest
        some (if minus then -n else n)
    else none

/-- A number without its sign: digits on at least one side of the point. -/
def readMagnitude? (negative : Bool) (cs : List Char) : Option Binary64 :=
  let (whole, rest) := spanDigits cs
  let (fraction, rest) := match rest with
    | '.' :: rest => spanDigits rest
    | rest => ([], rest)
  if whole.isEmpty && fraction.isEmpty then none
  else (readPower? rest).map fun power =>
    .ofDecimal negative (digitsValue (whole ++ fraction)) (power - fraction.length)

/-- The words for an infinity and for no number, in any case. -/
def readWord? (negative : Bool) (cs : List Char) : Option Binary64 :=
  let word := String.ofList (cs.map Char.toLower)
  if word = "inf" || word = "infinity" then some (.infinity negative)
  else if word = "nan" then some .nan
  else none

/-- **Reading a double** from a whole text. -/
def read? (s : String) : Option Binary64 :=
  let (negative, rest) := readSign s.toList
  (readWord? negative rest).orElse fun _ => readMagnitude? negative rest

/-- Reading a count: digits, with at most a plus sign in front. -/
def readCount? (s : String) : Option Nat :=
  let digits := match s.toList with
    | '+' :: rest => rest
    | cs => cs
  if digits.isEmpty || !digits.all Char.isDigit then none else some (digitsValue digits)

/-- Reading an integer: digits after an optional sign. -/
def readInt? (s : String) : Option Int :=
  let (negative, digits) := readSign s.toList
  if digits.isEmpty || !digits.all Char.isDigit then none
  else
    let n : Int := digitsValue digits
    some (if negative then -n else n)

end Decimal

end DeployChecks
