import DeployChecks.Toml.Basic
import DeployChecks.Toml.Text

/-!
# Toml/Statement — the lines of a document

A line opens a table, opens one more table of a list, or gives a value a name.  Each reader takes
the characters and gives what it read with the characters that follow.  Main definitions:
`Toml.Statement`, `Toml.readStatements?`.
-/

namespace DeployChecks

namespace Toml

/-- The number of parts that a name has at most, and of lists and tables around a value. -/
def maxDepth : Nat := 79

/-! ## Between statements -/

/-- Drop spaces in front. -/
def skipSpaces (cs : List Char) : List Char := cs.dropWhile isSpace

/-- **Skip spaces, ends of lines and comments** in front; nothing if a comment holds a character
that may not stand in one. -/
def skipLines? (inComment : Bool) : List Char → Option (List Char)
  | [] => some []
  | c :: rest =>
    if c = '\n' then skipLines? false rest
    else if inComment then (if isText c then skipLines? true rest else none)
    else if isSpace c then skipLines? false rest
    else if c = '#' then skipLines? true rest
    else some (c :: rest)

/-- **The rest of a line** holds nothing but spaces and a comment. -/
def endLine? (cs : List Char) : Option (List Char) :=
  match skipSpaces cs with
  | [] => some []
  | '\n' :: rest => some rest
  | '#' :: rest =>
    let r := rest.span (· ≠ '\n')
    if r.1.all isText then some r.2 else none
  | _ => none

/-! ## Names -/

/-- The character may stand in a name without quotes. -/
def isBare (c : Char) : Bool := c.isAlphanum || c = '_' || c = '-'

/-- One part of a name in front. -/
def readPart? (cs : List Char) : Option (String × List Char) :=
  match readShortText? cs with
  | some r => some (String.ofList r.1, r.2)
  | none =>
    let r := cs.span isBare
    if r.1.isEmpty then none else some (String.ofList r.1, r.2)

/-- **A dotted name**: the parts in front and the last one. -/
structure Path where
  /-- The tables that it passes. -/
  tables : List String
  /-- The last part. -/
  name : String
  deriving DecidableEq, Repr

/-- A dotted name of at most so many parts in front, with spaces around each. -/
def readPath? : Nat → List Char → Option (Path × List Char)
  | 0, _ => none
  | parts + 1, cs =>
    match readPart? (skipSpaces cs) with
    | none => none
    | some (part, rest) =>
      match skipSpaces rest with
      | '.' :: rest => (readPath? parts rest).map fun r => (⟨part :: r.1.tables, r.1.name⟩, r.2)
      | rest => some (⟨[], part⟩, rest)

/-! ## Values -/

/-- Drop a word in front, if it stands there. -/
def dropWord? : List Char → List Char → Option (List Char)
  | [], cs => some cs
  | _ :: _, [] => none
  | w :: ws, c :: cs => if w = c then dropWord? ws cs else none

/-- A value in front that holds no others. -/
def readPlain? (cs : List Char) : Option (Value × List Char) :=
  match cs with
  | '"' :: _ | '\x27' :: _ => (readText? cs).map fun r => (.text (String.ofList r.1), r.2)
  | 't' :: rest => (dropWord? ['r', 'u', 'e'] rest).map fun rest => (.bool true, rest)
  | 'f' :: rest => (dropWord? ['a', 'l', 's', 'e'] rest).map fun rest => (.bool false, rest)
  | cs =>
    match Moment.read? cs with
    | some r => some (.moment r.1, r.2)
    | none => (readNumber? cs).map fun r => (.number r.1, r.2)

mutual

/-- **A value in front**, with at most `room` lists and tables around one another. -/
def readValue? (room : Nat) : Nat → List Char → Option (Value × List Char)
  | 0, _ => none
  | fuel + 1, cs =>
    match cs with
    | '[' :: rest =>
      if room = 0 then none
      else (readItems? (room - 1) fuel rest).map fun r => (.array r.1, r.2)
    | '\x7b' :: rest =>
      if room = 0 then none
      else
        match skipSpaces rest with
        | '\x7d' :: rest => some (.table [], rest)
        | rest =>
          (readMembers? (room - 1) fuel [] rest).map fun r => (.table (memberValues r.1), r.2)
    | cs => readPlain? cs

/-- The items of a list up to its end. -/
def readItems? (room : Nat) : Nat → List Char → Option (List Value × List Char)
  | 0, _ => none
  | fuel + 1, cs =>
    match skipLines? false cs with
    | none => none
    | some (']' :: rest) => some ([], rest)
    | some cs =>
      match readValue? room fuel cs with
      | none => none
      | some (v, rest) =>
        match skipLines? false rest with
        | some (']' :: rest) => some ([v], rest)
        | some (',' :: rest) => (readItems? room fuel rest).map fun r => (v :: r.1, r.2)
        | _ => none

/-- The members of a table on one line up to its end, added to those before them. -/
def readMembers? (room : Nat) : Nat → Members → List Char → Option (Members × List Char)
  | 0, _, _ => none
  | fuel + 1, m, cs =>
    match readPath? maxDepth cs with
    | some (path, '=' :: rest) =>
      match readValue? room fuel (skipSpaces rest) with
      | none => none
      | some (v, rest) =>
        match assign path.name v path.tables m with
        | none => none
        | some m =>
          match skipSpaces rest with
          | '\x7d' :: rest => some (m, rest)
          | ',' :: rest => readMembers? room fuel m rest
          | _ => none
    | _ => none

end

/-! ## Statements -/

/-- **A line of a document.** -/
inductive Statement where
  /-- The header of a table. -/
  | header (path : Path)
  /-- The header of one more table of a list. -/
  | series (path : Path)
  /-- A name and its value. -/
  | assign (path : Path) (v : Value)

/-- A statement in front, without the end of its line.  A value needs no more steps than twice the
characters that are left. -/
def readStatement? (cs : List Char) : Option (Statement × List Char) :=
  match cs with
  | '[' :: '[' :: rest =>
    match readPath? maxDepth rest with
    | some (path, ']' :: ']' :: rest) => some (.series path, rest)
    | _ => none
  | '[' :: rest =>
    match readPath? maxDepth rest with
    | some (path, ']' :: rest) => some (.header path, rest)
    | _ => none
  | cs =>
    match readPath? maxDepth cs with
    | some (path, '=' :: rest) =>
      (readValue? maxDepth (2 * rest.length + 2) (skipSpaces rest)).map fun r =>
        (.assign path r.1, r.2)
    | _ => none

/-- **All statements**, each on a line of its own. -/
def readStatements? : Nat → List Char → Option (List Statement)
  | 0, _ => none
  | fuel + 1, cs =>
    match skipLines? false cs with
    | none => none
    | some [] => some []
    | some cs =>
      match readStatement? cs with
      | none => none
      | some (s, rest) =>
        match endLine? rest with
        | none => none
        | some rest => (readStatements? fuel rest).map (s :: ·)

end Toml

end DeployChecks
