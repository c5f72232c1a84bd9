import DeployChecks.Json.Raw
import DeployChecks.Text.Hex

/-!
# Json/Parser — JSON from text

The grammar of JSON, without a limit on nesting.  Each reader takes the characters and gives what
it read with the characters that follow.  Main definitions: `Raw.parse?` for a whole text and
`Json.parse?` for the value that it stands for.
-/

namespace DeployChecks

namespace Json

/-- The character may stand between tokens. -/
def isGap (c : Char) : Bool := c = ' ' || c = '\n' || c = '\t' || c = '\r'

/-- Skip what may stand between tokens. -/
def skipGap (cs : List Char) : List Char := cs.dropWhile isGap

/-! ## Strings -/

/-- **A piece of a spelled string**: a character, or one unit of sixteen bits. -/
inductive Piece where
  /-- A character that stands for itself or a short escape. -/
  | char (c : Char)
  /-- A unit spelled by its number. -/
  | unit (n : Nat)

/-- The character of a short escape. -/
def shortEscape? (c : Char) : Option Char :=
  if c = '"' then some '"'
  else if c = '\\' then some '\\'
  else if c = '/' then some '/'
  else if c = 'b' then some (Char.ofNat 8)
  else if c = 'f' then some (Char.ofNat 12)
  else if c = 'n' then some '\n'
  else if c = 'r' then some '\r'
  else if c = 't' then some '\t'
  else none

/-- Four hexadecimal digits. -/
def unitOfDigits? (a b c d : Char) : Option Nat :=
  match Text.hexDigit? a, Text.hexDigit? b, Text.hexDigit? c, Text.hexDigit? d with
  | some w, some x, some y, some z => some (((w * 16 + x) * 16 + y) * 16 + z)
  | _, _, _, _ => none

/-- The pieces of a string up to its closing quote, and what follows the quote. -/
def readPieces? : List Char → Option (List Piece × List Char)
  | [] => none
  | '"' :: rest => some ([], rest)
  | '\\' :: 'u' :: a :: b :: c :: d :: rest =>
    match unitOfDigits? a b c d, readPieces? rest with
    | some n, some (pieces, rest) => some (.unit n :: pieces, rest)
    | _, _ => none
  | '\\' :: c :: rest =>
    match shortEscape? c, readPieces? rest with
    | some c, some (pieces, rest) => some (.char c :: pieces, rest)
    | _, _ => none
  | c :: rest =>
    if c.toNat < 32 || c = '\\' then none
    else (readPieces? rest).map fun r => (.char c :: r.1, r.2)

/-- **The characters of the pieces**: two halves of a surrogate pair make one, and a half alone
stands for nothing. -/
def joinPieces? : List Piece → Option (List Char)
  | [] => some []
  | .char c :: rest => (joinPieces? rest).map (c :: ·)
  | .unit n :: rest =>
    if 0xD800 ≤ n && n ≤ 0xDBFF then
      match rest with
      | .unit m :: rest =>
        if 0xDC00 ≤ m && m ≤ 0xDFFF then
          (joinPieces? rest).map
            (Char.ofNat (0x10000 + (n - 0xD800) * 0x400 + (m - 0xDC00)) :: ·)
        else none
      | _ => none
    else if 0xDC00 ≤ n && n ≤ 0xDFFF then none
    else (joinPieces? rest).map (Char.ofNat n :: ·)

/-- A string after its opening quote. -/
def readString? (cs : List Char) : Option (Option String × List Char) :=
  (readPieces? cs).map fun r => ((joinPieces? r.1).map String.ofList, r.2)

/-! ## Numbers -/

/-- At least one digit. -/
def readDigits? (cs : List Char) : Option (List Char × List Char) :=
  let r := cs.span Char.isDigit
  if r.1.isEmpty then none else some r

/-- The digits before the point: a zero stands alone. -/
def readWhole? : List Char → Option (List Char × List Char)
  | '0' :: rest =>
    match rest with
    | c :: _ => if c.isDigit then none else some (['0'], rest)
    | [] => some (['0'], [])
  | cs => readDigits? cs

/-- The digits after the point, if there is one. -/
def readFraction? : List Char → Option (List Char × List Char)
  | '.' :: rest => readDigits? rest
  | cs => some ([], cs)

/-- The sign and the digits of a power of ten, after its mark. -/
def readSignedDigits? (cs : List Char) : Option ((Bool × List Char) × List Char) :=
  match cs with
  | '-' :: rest => (readDigits? rest).map fun r => ((true, r.1), r.2)
  | '+' :: rest => (readDigits? rest).map fun r => ((false, r.1), r.2)
  | rest => (readDigits? rest).map fun r => ((false, r.1), r.2)

/-- The power of ten, if there is one. -/
def readPower? : List Char → Option (Option (Bool × List Char) × List Char)
  | c :: rest =>
    if c = 'e' || c = 'E' then (readSignedDigits? rest).map fun r => (some r.1, r.2)
    else some (none, c :: rest)
  | [] => some (none, [])

/-- A number after its sign. -/
def readMagnitude? (negative : Bool) (cs : List Char) : Option (Spelling × List Char) :=
  (readWhole? cs).bind fun (whole, cs) =>
    (readFraction? cs).bind fun (fraction, cs) =>
      (readPower? cs).map fun (power, cs) => (⟨negative, whole, fraction, power⟩, cs)

/-- **A spelled number.** -/
def readSpelling? : List Char → Option (Spelling × List Char)
  | '-' :: rest => readMagnitude? true rest
  | cs => readMagnitude? false cs

/-! ## Values -/

/-- Drop a word in front, if it stands there. -/
def dropWord? : List Char → List Char → Option (List Char)
  | [], cs => some cs
  | _ :: _, [] => none
  | w :: ws, c :: cs => if w = c then dropWord? ws cs else none

mutual

/-- **A value in front**, blanks before it skipped. -/
def readValue? : Nat → List Char → Option (Raw × List Char)
  | 0, _ => none
  | fuel + 1, cs =>
    match skipGap cs with
    | [] => none
    | '"' :: rest => (readString? rest).map fun r => (.string r.1, r.2)
    | '[' :: rest =>
      match skipGap rest with
      | ']' :: rest => some (.array [], rest)
      | rest => (readItems? fuel rest).map fun r => (.array r.1, r.2)
    | '\x7b' :: rest =>
      match skipGap rest with
      | '\x7d' :: rest => some (.object [], rest)
      | rest => (readMembers? fuel rest).map fun r => (.object r.1, r.2)
    | 'n' :: rest => (dropWord? ['u', 'l', 'l'] rest).map fun rest => (.null, rest)
    | 't' :: rest => (dropWord? ['r', 'u', 'e'] rest).map fun rest => (.bool true, rest)
    | 'f' :: rest => (dropWord? ['a', 'l', 's', 'e'] rest).map fun rest => (.bool false, rest)
    | cs => (readSpelling? cs).map fun r => (.number r.1.number?, r.2)

/-- The items of a list up to its end. -/
def readItems? : Nat → List Char → Option (List Raw × List Char)
  | 0, _ => none
  | fuel + 1, cs =>
    match readValue? fuel cs with
    | none => none
    | some (v, rest) =>
      match skipGap rest with
      | ']' :: rest => some ([v], rest)
      | ',' :: rest => (readItems? fuel rest).map fun r => (v :: r.1, r.2)
      | _ => none

/-- The members of an object up to its end. -/
def readMembers? : Nat → List Char → Option (List (Option String × Raw) × List Char)
  | 0, _ => none
  | fuel + 1, cs =>
    match skipGap cs with
    | '"' :: rest =>
      match readString? rest with
      | none => none
      | some (k, rest) =>
        match skipGap rest with
        | ':' :: rest =>
          match readValue? fuel rest with
          | none => none
          | some (v, rest) =>
            match skipGap rest with
            | '\x7d' :: rest => some ([(k, v)], rest)
            | ',' :: rest => (readMembers? fuel rest).map fun r => ((k, v) :: r.1, r.2)
            | _ => none
        | _ => none
    | _ => none

end

/-- **A whole text**: one value with blanks around it.  A value needs no more steps than twice the
characters that it has. -/
def Raw.parse? (s : String) : Option Raw :=
  let cs := s.toList
  match readValue? (2 * cs.length + 2) cs with
  | some (v, rest) => if (skipGap rest).isEmpty then some v else none
  | none => none

/-- **The value of a whole text.** -/
def parse? (s : String) : Option Json := (Raw.parse? s).bind (ofRaw? maxNesting)

end Json

end DeployChecks
