import DeployChecks.Timestamp.Reader

/-!
# Toml/Moment — dates and times of day

A date, a time of day, or both with or without an offset, as they are written in a document or
make up a text of their own.  Main definitions: `Toml.Moment`, `Moment.read?`, `Moment.ofText?`,
`Moment.write`.
-/

namespace DeployChecks

namespace Toml

/-- **A date.** -/
structure Date where
  /-- The year. -/
  year : Nat
  /-- The month, from one on. -/
  month : Nat
  /-- The day of the month, from one on. -/
  day : Nat
  deriving DecidableEq, Repr

/-- **A time of day.** -/
structure Time where
  /-- The hour. -/
  hour : Nat
  /-- The minute. -/
  minute : Nat
  /-- The second. -/
  second : Nat
  /-- The nanosecond. -/
  nano : Nat
  deriving DecidableEq, Repr

/-- **How far a local time is from universal time.** -/
inductive Offset where
  /-- It is universal time. -/
  | universal
  /-- It is that many minutes ahead. -/
  | minutes (n : Int)
  deriving DecidableEq, Repr

/-- **A date, a time of day, or both.** -/
inductive Moment where
  /-- A date alone. -/
  | date (d : Date)
  /-- A time of day alone. -/
  | time (t : Time)
  /-- Both, with an offset if it is known. -/
  | dateTime (d : Date) (t : Time) (offset : Option Offset)
  deriving DecidableEq, Repr

/-! ## Writing -/

open Timestamp (padded)

/-- The written form of a date. -/
def Date.write (d : Date) : List Char :=
  padded 4 d.year ++ '-' :: padded 2 d.month ++ '-' :: padded 2 d.day

/-- A fraction of a second without zeros at its end. -/
def writeNano (nano : Nat) : List Char :=
  if nano = 0 then [] else '.' :: ((padded 9 nano).reverse.dropWhile (· = '0')).reverse

/-- The written form of a time of day. -/
def Time.write (t : Time) : List Char :=
  padded 2 t.hour ++ ':' :: padded 2 t.minute ++ ':' :: padded 2 t.second ++ writeNano t.nano

/-- The written form of an offset. -/
def Offset.write : Offset → List Char
  | universal => ['Z']
  | minutes n =>
    (if n < 0 then '-' else '+') :: padded 2 (n.natAbs / 60) ++ ':' :: padded 2 (n.natAbs % 60)

/-- **The written form of a moment.** -/
def Moment.write : Moment → String
  | date d => String.ofList d.write
  | time t => String.ofList t.write
  | dateTime d t offset =>
    String.ofList (d.write ++ 'T' :: t.write ++ (offset.map Offset.write).getD [])

/-! ## Reading -/

/-- **How far the numbers of a moment go.** -/
structure Limits where
  /-- The last hour of a day. -/
  hour : Nat
  /-- The most hours of an offset. -/
  aheadHours : Nat
  /-- The most minutes of an offset beside its hours. -/
  aheadMinutes : Nat
  /-- The most minutes of an offset in all. -/
  ahead : Nat

/-- The limits in a document: those of a clock. -/
def Limits.document : Limits := ⟨23, 23, 59, 24 * 60 - 1⟩

/-- The limits in a text of its own: the end of a day is an hour of it, and an offset goes up to a
whole day, however it is split. -/
def Limits.alone : Limits := ⟨24, 99, 99, 24 * 60⟩

/-- Exactly `width` digits in front. -/
def readWidth? (width : Nat) (cs : List Char) : Option (Nat × List Char) :=
  let r := Timestamp.spanDigits width cs
  if r.1.length = width then some (Nat.ofDigitChars 10 r.1 0, r.2) else none

/-- Two digits in front that make a number up to `most`. -/
def readTwo? (most : Nat) (cs : List Char) : Option (Nat × List Char) :=
  (readWidth? 2 cs).bind fun r => if r.1 ≤ most then some r else none

/-- Drop a character in front, if it stands there. -/
def dropChar? (c : Char) : List Char → Option (List Char)
  | [] => none
  | d :: rest => if d = c then some rest else none

/-- A date in front. -/
def readDate? (cs : List Char) : Option (Date × List Char) := do
  let (year, cs) ← readWidth? 4 cs
  let cs ← dropChar? '-' cs
  let (month, cs) ← readTwo? 12 cs
  let cs ← dropChar? '-' cs
  let (day, cs) ← readTwo? 31 cs
  if Calendar.isDate year month day then some (⟨year, month, day⟩, cs) else none

/-- A time of day in front. -/
def readTime? (limits : Limits) (cs : List Char) : Option (Time × List Char) := do
  let (hour, cs) ← readTwo? limits.hour cs
  let cs ← dropChar? ':' cs
  let (minute, cs) ← readTwo? 59 cs
  let cs ← dropChar? ':' cs
  let (second, cs) ← readTwo? 60 cs
  let (nano, cs) ← Timestamp.readFraction? cs
  some (⟨hour, minute, second, nano⟩, cs)

/-- The hours and minutes of an offset in front. -/
def readAhead? (limits : Limits) (cs : List Char) : Option (Nat × List Char) := do
  let (hours, cs) ← readTwo? limits.aheadHours cs
  let cs ← dropChar? ':' cs
  let (minutes, cs) ← readTwo? limits.aheadMinutes cs
  let ahead := hours * 60 + minutes
  if ahead ≤ limits.ahead then some (ahead, cs) else none

/-- An offset in front, if there is one. -/
def readOffset? (limits : Limits) : List Char → Option (Option Offset × List Char)
  | [] => some (none, [])
  | c :: rest =>
    if c = 'Z' || c = 'z' then some (some .universal, rest)
    else if c = '+' then
      (readAhead? limits rest).map fun r => (some (.minutes r.1), r.2)
    else if c = '-' then
      (readAhead? limits rest).map fun r => (some (.minutes (-(r.1 : Int))), r.2)
    else some (none, c :: rest)

/-- A time of day in front, with an offset if there is one. -/
def readZoned? (limits : Limits) (cs : List Char) : Option ((Time × Option Offset) × List Char) :=
  (readTime? limits cs).bind fun (t, cs) =>
    (readOffset? limits cs).map fun (offset, cs) => ((t, offset), cs)

/-- **A moment in front** of a document.  Where no time of day follows the mark after a date, the
mark is not part of the moment. -/
def Moment.read? (cs : List Char) : Option (Moment × List Char) :=
  match readDate? cs with
  | some (d, cs) =>
    match (Timestamp.readSeparator? cs).bind (readTime? .document) with
    | some (t, cs) => (readOffset? .document cs).map fun r => (.dateTime d t r.1, r.2)
    | none => some (.date d, cs)
  | none => (readTime? .document cs).map fun r => (.time r.1, r.2)

/-- **The moment that a whole text tells.** -/
def Moment.ofText? (s : String) : Option Moment :=
  match readDate? s.toList with
  | some (d, []) => some (.date d)
  | some (d, cs) =>
    match (Timestamp.readSeparator? cs).bind (readZoned? .alone) with
    | some ((t, offset), []) => some (.dateTime d t offset)
    | _ => none
  | none =>
    match readTime? .alone s.toList with
    | some (t, []) => some (.time t)
    | _ => none

end Toml

end DeployChecks
