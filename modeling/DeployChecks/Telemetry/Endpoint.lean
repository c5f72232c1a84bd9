/-!
# Telemetry/Endpoint — where spans can be sent

An endpoint is a URI in one of four forms: a star, a path, an authority, or a scheme with an
authority and perhaps a path.  The empty text stands for the standard endpoint.  Main definition:
`Endpoint.isUsable`.
-/

namespace DeployChecks

namespace Endpoint

/-- The greatest length of an endpoint in bytes. -/
def maxBytes : Nat := 65534

/-- The greatest length of a scheme. -/
def maxScheme : Nat := 64

/-- A character of a scheme. -/
def isSchemeChar (c : Char) : Bool := c.isAlphanum || c = '+' || c = '-' || c = '.' || c = '~'

/-- A character that ends an authority. -/
def endsAuthority (c : Char) : Bool := c = '/' || c = '?' || c = '#'

/-- A character of an authority that has no meaning of its own. -/
def isAuthorityChar (c : Char) : Bool :=
  c.isAlphanum || ['-', '.', '_', '~', '!', '$', '&', '\x27', '(', ')', '*', '+', ',', ';',
    '='].contains c

/-- A character of a path. -/
def isPathChar (c : Char) : Bool :=
  let n := c.toNat
  n = 0x21 || n = 0x22 || (0x24 ≤ n && n ≤ 0x3B) || n = 0x3D || (0x40 ≤ n && n ≤ 0x5F)
    || (0x61 ≤ n && n ≤ 0x7E) || 0x80 ≤ n

/-- A character of a query. -/
def isQueryChar (c : Char) : Bool :=
  let n := c.toNat
  n = 0x21 || (0x24 ≤ n && n ≤ 0x3B) || n = 0x3D || (0x3F ≤ n && n ≤ 0x7E) || 0x80 ≤ n

/-- **The scheme in front and what follows it**: nothing in front if there is none, and no answer
if the scheme is too long. -/
def splitScheme? (cs : List Char) : Option (Option (List Char) × List Char) :=
  let scheme := cs.takeWhile isSchemeChar
  match cs.dropWhile isSchemeChar with
  | ':' :: '/' :: '/' :: rest =>
    if scheme.length ≤ maxScheme then some (some scheme, rest) else none
  | _ => some (none, cs)

/-- **What was seen of an authority.** -/
structure Seen where
  /-- The colons since the last at sign or bracket. -/
  colons : Nat
  /-- A bracket was opened. -/
  opened : Bool
  /-- The bracket was closed. -/
  closed : Bool
  /-- There was a percent sign since the last at sign or bracket. -/
  percent : Bool
  /-- The last character was an at sign. -/
  endsInAt : Bool

/-- The start of an authority. -/
def Seen.start : Seen := ⟨0, false, false, false, false⟩

/-- One more character, if it may stand there. -/
def Seen.next? (s : Seen) (c : Char) : Option Seen :=
  let s := { s with endsInAt := false }
  if c = ':' then if s.colons < 8 then some { s with colons := s.colons + 1 } else none
  else if c = '[' then if s.percent || s.opened then none else some { s with opened := true }
  else if c = ']' then
    if !s.opened || s.closed then none
    else some { s with closed := true, colons := 0, percent := false }
  else if c = '@' then some { s with colons := 0, percent := false, endsInAt := true }
  else if c = '%' then some { s with percent := true }
  else if isAuthorityChar c then some s
  else none

/-- The authority may end here. -/
def Seen.isComplete (s : Seen) : Bool :=
  s.opened == s.closed && s.colons ≤ 1 && !s.endsInAt && !s.percent

/-- **An authority**, which may be empty. -/
def isAuthority (cs : List Char) : Bool :=
  match cs.foldlM Seen.next? Seen.start with
  | some s => s.isComplete
  | none => false

/-- **A path with an optional query**; what follows a hash does not count. -/
def isPathAndQuery (cs : List Char) : Bool :=
  let path := cs.takeWhile fun c => c ≠ '?' && c ≠ '#'
  path.all isPathChar &&
    match cs.dropWhile fun c => c ≠ '?' && c ≠ '#' with
    | '?' :: query => (query.takeWhile (· ≠ '#')).all isQueryChar
    | _ => true

/-- **An authority behind a scheme**, with what follows it. -/
def isHierarchy (cs : List Char) : Bool :=
  let authority := cs.takeWhile fun c => !endsAuthority c
  !authority.isEmpty && isAuthority authority
    && isPathAndQuery (cs.dropWhile fun c => !endsAuthority c)

/-- **The endpoint can be used.** -/
def isUsable (endpoint : String) : Bool :=
  endpoint.utf8ByteSize ≤ maxBytes &&
    match endpoint.toList with
    | [] | ['*'] => true
    | '/' :: rest => isPathAndQuery ('/' :: rest)
    | cs =>
      match splitScheme? cs with
      | none => false
      | some (none, cs) => isAuthority cs
      | some (some _, rest) => isHierarchy rest

end Endpoint

end DeployChecks
