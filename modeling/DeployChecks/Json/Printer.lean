import DeployChecks.Decimal.Layout
import DeployChecks.Json.Basic

/-!
# Json/Printer — compact JSON text

No blanks; in texts only the quote, the backslash and the controls are escaped.  Main
definitions: `Json.write`, `Json.compact`.
-/

namespace DeployChecks

namespace Json

/-- **One character of a written text.** -/
def escapeChar (c : Char) : List Char :=
  if c = '"' then ['\\', '"']
  else if c = '\\' then ['\\', '\\']
  else if c.toNat = 8 then ['\\', 'b']
  else if c.toNat = 9 then ['\\', 't']
  else if c.toNat = 10 then ['\\', 'n']
  else if c.toNat = 12 then ['\\', 'f']
  else if c.toNat = 13 then ['\\', 'r']
  else if c.toNat < 32 then
    ['\\', 'u', '0', '0', Nat.digitChar (c.toNat / 16), Nat.digitChar (c.toNat % 16)]
  else [c]

/-- A written text. -/
def writeString (s : String) : List Char := '"' :: s.toList.flatMap escapeChar ++ ['"']

/-- A written integer. -/
def writeInt (n : Int) : List Char :=
  (if n < 0 then ['-'] else []) ++ Nat.toDigits 10 n.natAbs

/-- A written number. -/
def Number.write : Number → List Char
  | .int n => writeInt n
  | .double x => (Decimal.exchange.write x).toList

mutual

/-- **A written value.** -/
def write : Json → List Char
  | .null => ['n', 'u', 'l', 'l']
  | .bool true => ['t', 'r', 'u', 'e']
  | .bool false => ['f', 'a', 'l', 's', 'e']
  | .number n => n.write
  | .string s => writeString s
  | .array items => '[' :: writeItems items ++ [']']
  | .object members => '\x7b' :: writeMembers members ++ ['\x7d']

/-- The items of a list, with commas between. -/
def writeItems : List Json → List Char
  | [] => []
  | [v] => write v
  | v :: w :: rest => write v ++ ',' :: writeItems (w :: rest)

/-- The members of an object, with commas between. -/
def writeMembers : List (String × Json) → List Char
  | [] => []
  | [(k, v)] => writeString k ++ ':' :: write v
  | (k, v) :: m :: rest => writeString k ++ ':' :: write v ++ ',' :: writeMembers (m :: rest)

end

/-- **The compact text of a value.** -/
def compact (v : Json) : String := String.ofList v.write

end Json

end DeployChecks
