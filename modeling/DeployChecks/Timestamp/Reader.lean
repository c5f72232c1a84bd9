import DeployChecks.Decimal.Power
import DeployChecks.Text.Blank
import DeployChecks.Timestamp.Basic

/-!
# Timestamp/Reader — timestamps from text

A date, a separator, a time of day and the offset of its zone.  Blanks are allowed in front of
every number and of the signs between them, numbers may be short, and the fraction of a second may
have any length.  Main definition: `Timestamp.read?`.
-/

namespace DeployChecks

namespace Timestamp

open Text

/-- Up to `width` digits in front. -/
def spanDigits : Nat → List Char → List Char × List Char
  | 0, cs => ([], cs)
  | _ + 1, [] => ([], [])
  | width + 1, c :: rest =>
    if c.isDigit then
      let r := spanDigits width rest
      (c :: r.1, r.2)
    else ([], c :: rest)

/-- A number of one to `width` digits. -/
def readNumber? (width : Nat) (cs : List Char) : Option (Nat × List Char) :=
  let r := spanDigits width cs
  if r.1.isEmpty then none else some (Nat.ofDigitChars 10 r.1 0, r.2)

/-- A number of one or two digits after blanks. -/
def readField? (cs : List Char) : Option (Nat × List Char) := readNumber? 2 (trimLeft cs)

/-- A year after blanks: up to four digits, or a sign and any number of them. -/
def readYear? (cs : List Char) : Option (Int × List Char) :=
  match trimLeft cs with
  | '-' :: rest => (readNumber? rest.length rest).map fun r => (-(r.1 : Int), r.2)
  | '+' :: rest => (readNumber? rest.length rest).map fun r => ((r.1 : Int), r.2)
  | rest => (readNumber? 4 rest).map fun r => ((r.1 : Int), r.2)

/-- A sign after blanks. -/
def readMark? (mark : Char) (cs : List Char) : Option (List Char) :=
  match trimLeft cs with
  | c :: rest => if c = mark then some rest else none
  | [] => none

/-- The separator of date and time. -/
def readSeparator? : List Char → Option (List Char)
  | c :: rest => if c = 'T' || c = 't' || c = ' ' then some rest else none
  | [] => none

/-- The fraction of a second, cut to nanoseconds. -/
def readFraction? : List Char → Option (Nat × List Char)
  | '.' :: rest =>
    let r := spanDigits 9 rest
    if r.1.isEmpty then none
    else some (Nat.ofDigitChars 10 r.1 0 * tenTo (9 - r.1.length), r.2.dropWhile Char.isDigit)
  | cs => some (0, cs)

/-- Exactly two digits, the first at most `most`. -/
def readPair? (most : Char) : List Char → Option (Nat × List Char)
  | a :: b :: rest =>
    if a.isDigit && b.isDigit && a ≤ most then some (Nat.ofDigitChars 10 [a, b] 0, rest) else none
  | _ => none

/-- The hours and minutes of an offset, in minutes, with colons or blanks between. -/
def readSpan? (cs : List Char) : Option (Nat × List Char) :=
  (readPair? '9' cs).bind fun (hours, cs) =>
    (readPair? '5' (cs.dropWhile fun c => c = ':' || isBlank c)).map fun (minutes, cs) =>
      (hours * 60 + minutes, cs)

/-- The zone, as the minutes by which it is ahead of universal time. -/
def readZone? (cs : List Char) : Option (Int × List Char) :=
  match trimLeft cs with
  | a :: b :: c :: rest =>
    if a.toLower = 'u' && b.toLower = 't' && c.toLower = 'c' then some (0, rest)
    else readOffset? (a :: b :: c :: rest)
  | rest => readOffset? rest
where
  /-- The letter of universal time, or a sign and a span below a day. -/
  readOffset? : List Char → Option (Int × List Char)
    | c :: rest =>
      if c = 'Z' || c = 'z' then some (0, rest)
      else if c = '+' || c = '-' || c = '−' then
        (readSpan? rest).bind fun r =>
          if r.1 < 24 * 60 then some (if c = '+' then (r.1 : Int) else -(r.1 : Int), r.2) else none
      else none
    | [] => none

/-! ## Universal time -/

/-- The day before a date. -/
def previousDay (year : Int) (month day : Nat) : Int × Nat × Nat :=
  if 1 < day then (year, month, day - 1)
  else if 1 < month then (year, month - 1, Calendar.daysIn year (month - 1))
  else (year - 1, 12, 31)

/-- The day after a date. -/
def nextDay (year : Int) (month day : Nat) : Int × Nat × Nat :=
  if day < Calendar.daysIn year month then (year, month, day + 1)
  else if month < 12 then (year, month + 1, 1)
  else (year + 1, 1, 1)

/-- **The timestamp of a local date and time** whose zone is `ahead` minutes before universal
time. -/
def ofLocal? (year : Int) (month day hour minute second nano : Nat) (ahead : Int) :
    Option Timestamp :=
  if Calendar.isDate year month day && Calendar.isTime hour minute second nano then
    let total : Int := hour * 60 + minute - ahead
    let (year, month, day) :=
      if total < 0 then previousDay year month day
      else if 24 * 60 ≤ total then nextDay year month day
      else (year, month, day)
    let rest := (total % (24 * 60)).toNat
    ofFields? year month day (rest / 60) (rest % 60) second nano
  else none

/-- **Reading a timestamp** from a whole text. -/
def read? (s : String) : Option Timestamp := do
  let (year, cs) ← readYear? s.toList
  let cs ← readMark? '-' cs
  let (month, cs) ← readField? cs
  let cs ← readMark? '-' cs
  let (day, cs) ← readField? cs
  let cs ← readSeparator? cs
  let (hour, cs) ← readField? cs
  let cs ← readMark? ':' cs
  let (minute, cs) ← readField? cs
  let cs ← readMark? ':' cs
  let (second, cs) ← readField? cs
  let (nano, cs) ← readFraction? cs
  let (ahead, cs) ← readZone? cs
  if (trimLeft cs).isEmpty then ofLocal? year month day hour minute second nano ahead else none

end Timestamp

end DeployChecks
