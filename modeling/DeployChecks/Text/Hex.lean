/-!
# Text/Hex — hexadecimal numbers

Writing in small letters at a fixed width, reading in either case.  Main definitions: `hexDigit?`,
`readHex?`, `hexOfWidth`.
-/

namespace DeployChecks

namespace Text

/-- The value of one hexadecimal digit. -/
def hexDigit? (c : Char) : Option Nat :=
  if '0' ≤ c && c ≤ '9' then some (c.toNat - '0'.toNat)
  else if 'a' ≤ c && c ≤ 'f' then some (c.toNat - 'a'.toNat + 10)
  else if 'A' ≤ c && c ≤ 'F' then some (c.toNat - 'A'.toNat + 10)
  else none

/-- The value of a run of hexadecimal digits read after the value `n`. -/
def readHexAfter? (n : Nat) : List Char → Option Nat
  | [] => some n
  | c :: rest => (hexDigit? c).bind fun d => readHexAfter? (16 * n + d) rest

/-- **Reading**: at least one digit, of either case, after an optional plus sign. -/
def readHex? : List Char → Option Nat
  | [] => none
  | ['+'] => none
  | '+' :: rest => readHexAfter? 0 rest
  | cs => readHexAfter? 0 cs

/-- **Writing**: small letters, filled up with zeros in front to `width` digits. -/
def hexOfWidth (width n : Nat) : List Char :=
  let digits := Nat.toDigits 16 n
  List.replicate (width - digits.length) '0' ++ digits

end Text

end DeployChecks
