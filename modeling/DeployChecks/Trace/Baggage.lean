import DeployChecks.Keyed
import DeployChecks.Text.Blank
import DeployChecks.Text.Percent

/-!
# Trace/Baggage — named values that travel with a trace

Entries have a name, a value and properties.  Main definitions: `Baggage`, `Baggage.insert`,
`Baggage.read`, `Baggage.header`.
-/

namespace DeployChecks

namespace Trace

/-- **The value of a name, with its properties.** -/
structure BaggageValue where
  /-- The value. -/
  value : String
  /-- The properties, with semicolons between. -/
  properties : String
  deriving DecidableEq, Repr

/-- **Named values.** -/
abbrev Baggage := Keyed String BaggageValue

namespace Baggage

/-- The greatest number of entries. -/
def maxEntries : Nat := 64

/-- The greatest number of bytes in all names, values and properties. -/
def maxBytes : Nat := 8192

/-- The visible ASCII characters that a name may not hold. -/
def separators : List Char :=
  ['(', ')', ',', '/', ':', ';', '<', '=', '>', '?', '@', '[', '\\', ']', '\x7b', '\x7d', '"']

/-- A character that a name may hold. -/
def isNameChar (c : Char) : Bool :=
  0x21 ≤ c.toNat && c.toNat ≤ 0x7E && !separators.contains c

/-- **A name.** -/
def isName (s : String) : Bool := !s.isEmpty && s.toList.all isNameChar

/-- The bytes of an entry. -/
def entryBytes (e : String × BaggageValue) : Nat :=
  e.1.utf8ByteSize + e.2.value.utf8ByteSize + e.2.properties.utf8ByteSize

/-- The bytes of all entries. -/
def bytes (b : Baggage) : Nat := b.toList.foldl (fun n e => n + entryBytes e) 0

/-- **Insert an entry**, over an earlier one of its name.  An entry with a bad name, or one for
which there is no room, is passed over. -/
def insert (b : Baggage) (name : String) (v : BaggageValue) : Baggage :=
  let b' := Keyed.insert b name v
  if isName name && b'.size ≤ maxEntries && bytes b' ≤ maxBytes then b' else b

/-- A piece of a header, decoded and without blanks around it. -/
def readPiece? (cs : List Char) : Option (List Char) := (Text.percentDecode? cs).map Text.trim

/-- One entry of a header: a name and a value, then properties. -/
def readEntry? (cs : List Char) : Option (String × BaggageValue) :=
  match cs.splitOn ';' with
  | [] => none
  | entry :: properties =>
    match entry.splitOn '=' with
    | name :: value :: _ =>
      match readPiece? name, readPiece? value with
      | some name, some value =>
        let joined := [';'].intercalate (properties.filterMap readPiece?)
        some (String.ofList name, ⟨String.ofList value, String.ofList (Text.trim joined)⟩)
      | _, _ => none
    | _ => none

/-- **Reading** a header. -/
def read (header : String) : Baggage :=
  ((header.toList.splitOn ',').filterMap readEntry?).foldl (fun b e => insert b e.1 e.2) {}

/-- A character that is written as its bytes. -/
def isEscaped (c : Char) : Bool :=
  c.toNat ≤ 0x20 || 0x7F ≤ c.toNat || c = '"' || c = ';' || c = ',' || c = '='

/-- One entry as it is written. -/
def writeEntry (e : String × BaggageValue) : List Char :=
  let properties := Text.trim e.2.properties.toList
  Text.percentEncode isEscaped (Text.trim e.1.toList) ++ '='
    :: Text.percentEncode isEscaped (Text.trim e.2.value.toList)
    ++ (if properties.isEmpty then [] else ';' :: properties)

/-- **Writing** a header. -/
def header (b : Baggage) : String := String.ofList ([','].intercalate (b.toList.map writeEntry))

end Baggage

end Trace

end DeployChecks
