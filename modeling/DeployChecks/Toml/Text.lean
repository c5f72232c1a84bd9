import DeployChecks.Text.Hex

/-!
# Toml/Text — quoted texts

A text stands between double quotes, with escapes, or between single ones, without; three quotes
in a row enclose a text of several lines.  Main definition: `Toml.readText?`.
-/

namespace DeployChecks

namespace Toml

/-- The single quote. -/
def singleQuote : Char := '\x27'

/-- The character may stand between the parts of a line. -/
def isSpace (c : Char) : Bool := c = ' ' || c = '\t'

/-- The character may stand in texts and comments: all but the controls, of which only the
tabulator may. -/
def isText (c : Char) : Bool := c = '\t' || (32 ≤ c.toNat && c.toNat ≠ 127)

/-- The character with a number, if there is one. -/
def scalar? (n : Nat) : Option Char := if n.isValidChar then some (Char.ofNat n) else none

/-- The character that hexadecimal digits spell. -/
def spelledChar? (digits : List Char) : Option Char := (Text.readHexAfter? 0 digits).bind scalar?

/-- The character of a short escape. -/
def escape? (c : Char) : Option Char :=
  if c = 'b' then some (Char.ofNat 8)
  else if c = 't' then some '\t'
  else if c = 'n' then some '\n'
  else if c = 'f' then some (Char.ofNat 12)
  else if c = 'r' then some '\r'
  else if c = '"' then some '"'
  else if c = '\\' then some '\\'
  else none

/-- Put a character in front of a text that was read. -/
def consRead (c : Char) (r : Option (List Char × List Char)) : Option (List Char × List Char) :=
  r.map fun r => (c :: r.1, r.2)

/-- A text of one line up to its closing double quote. -/
def readLine? : List Char → Option (List Char × List Char)
  | [] => none
  | '"' :: rest => some ([], rest)
  | '\\' :: 'u' :: a :: b :: c :: d :: rest =>
    (spelledChar? [a, b, c, d]).bind fun x => consRead x (readLine? rest)
  | '\\' :: 'U' :: a :: b :: c :: d :: e :: f :: g :: h :: rest =>
    (spelledChar? [a, b, c, d, e, f, g, h]).bind fun x => consRead x (readLine? rest)
  | '\\' :: c :: rest => (escape? c).bind fun x => consRead x (readLine? rest)
  | c :: rest => if isText c && c ≠ '\\' then consRead c (readLine? rest) else none

/-- Nothing but spaces stands before the end of the line. -/
def endsLine (cs : List Char) : Bool := (cs.dropWhile isSpace).head? = some '\n'

/-- **A text of several lines** up to its three double quotes, of which at most two more may stand
before them.  A backslash at the end of a line drops all space up to the next character; while
`dropping`, that space is passed. -/
def readLines? (dropping : Bool) : List Char → Option (List Char × List Char)
  | [] => none
  | '"' :: '"' :: '"' :: '"' :: '"' :: rest => some (['"', '"'], rest)
  | '"' :: '"' :: '"' :: '"' :: rest => some (['"'], rest)
  | '"' :: '"' :: '"' :: rest => some ([], rest)
  | '\\' :: 'u' :: a :: b :: c :: d :: rest =>
    (spelledChar? [a, b, c, d]).bind fun x => consRead x (readLines? false rest)
  | '\\' :: 'U' :: a :: b :: c :: d :: e :: f :: g :: h :: rest =>
    (spelledChar? [a, b, c, d, e, f, g, h]).bind fun x => consRead x (readLines? false rest)
  | '\\' :: c :: rest =>
    match escape? c with
    | some x => consRead x (readLines? false rest)
    | none => if endsLine (c :: rest) then readLines? true rest else none
  | c :: rest =>
    if dropping && (isSpace c || c = '\n') then readLines? true rest
    else if (isText c && c ≠ '\\') || c = '\n' then consRead c (readLines? false rest)
    else none

/-- A text of one line without escapes up to its closing single quote. -/
def readBareLine? : List Char → Option (List Char × List Char)
  | [] => none
  | c :: rest =>
    if c = singleQuote then some ([], rest)
    else if isText c then consRead c (readBareLine? rest)
    else none

/-- A text of several lines without escapes up to its three single quotes, of which at most two
more may stand before them. -/
def readBareLines? : List Char → Option (List Char × List Char)
  | [] => none
  | '\x27' :: '\x27' :: '\x27' :: '\x27' :: '\x27' :: rest =>
    some ([singleQuote, singleQuote], rest)
  | '\x27' :: '\x27' :: '\x27' :: '\x27' :: rest => some ([singleQuote], rest)
  | '\x27' :: '\x27' :: '\x27' :: rest => some ([], rest)
  | c :: rest => if isText c || c = '\n' then consRead c (readBareLines? rest) else none

/-- Drop the end of a line that stands in front. -/
def dropLineEnd : List Char → List Char
  | '\n' :: rest => rest
  | cs => cs

/-- A quoted text of one line in front. -/
def readShortText? : List Char → Option (List Char × List Char)
  | '"' :: rest => readLine? rest
  | '\x27' :: rest => readBareLine? rest
  | _ => none

/-- **A quoted text in front.**  The end of the line after three opening quotes is not part of
it. -/
def readText? : List Char → Option (List Char × List Char)
  | '"' :: '"' :: '"' :: rest => readLines? false (dropLineEnd rest)
  | '\x27' :: '\x27' :: '\x27' :: rest => readBareLines? (dropLineEnd rest)
  | cs => readShortText? cs

end Toml

end DeployChecks
