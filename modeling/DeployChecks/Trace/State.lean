/-!
# Trace/State — vendor entries that travel with a trace

A list of keys and values, read from one header and written back as it is.  One bad member spoils
the whole list.  Main definitions: `TraceState.read?`, `TraceState.header`.
-/

namespace DeployChecks

namespace Trace

/-- **The entries of a trace**, the foremost first. -/
structure TraceState where
  /-- Keys and values. -/
  members : List (String × String)
  deriving DecidableEq, Repr

namespace TraceState

/-- No entries. -/
def empty : TraceState := ⟨[]⟩

instance : Inhabited TraceState := ⟨empty⟩

/-- The pieces between separators; an empty piece at the end does not count. -/
def pieces (separator : Char) (cs : List Char) : List (List Char) :=
  let l := cs.splitOn separator
  if l.getLast? = some [] then l.dropLast else l

/-- A small letter or a digit. -/
def isLowerOrDigit (c : Char) : Bool := c.isLower || c.isDigit

/-- A character that a key may hold. -/
def isKeyChar (c : Char) : Bool :=
  isLowerOrDigit c || c = '_' || c = '-' || c = '*' || c = '/' || c = '@'

/-- The greatest length of a key or a value. -/
def maxLength : Nat := 256

/-- The greatest length of the part of a key after its at sign. -/
def maxVendorLength : Nat := 13

/-- A part of a key: it starts with a small letter or a digit. -/
def startsWell : List Char → Bool
  | [] => true
  | c :: _ => isLowerOrDigit c

/-- **A key**: it has at most one at sign, and what follows that is short. -/
def isKey (cs : List Char) : Bool :=
  cs.length ≤ maxLength && cs.all isKeyChar && startsWell cs &&
    match cs.dropWhile (· ≠ '@') with
    | [] => true
    | _ :: vendor => vendor.all (· ≠ '@') && vendor.length ≤ maxVendorLength && startsWell vendor

/-- **A value.** -/
def isValue (cs : List Char) : Bool :=
  (String.ofList cs).utf8ByteSize ≤ maxLength && cs.all fun c => c ≠ ',' && c ≠ '='

/-- One member: a key and a value around the first equals sign; more of these before the value do
not count. -/
def readMember? (cs : List Char) : Option (String × String) :=
  if cs.contains '=' then
    let key := cs.takeWhile (· ≠ '=')
    let value := (cs.dropWhile (· ≠ '=')).dropWhile (· = '=')
    if isKey key && isValue value then some (String.ofList key, String.ofList value) else none
  else none

/-- **Reading** a header. -/
def read? (header : String) : Option TraceState :=
  ((pieces ',' header.toList).mapM readMember?).map .mk

/-- **Writing** a header. -/
def header (s : TraceState) : String := ",".intercalate (s.members.map fun e => e.1 ++ "=" ++ e.2)

end TraceState

end Trace

end DeployChecks
