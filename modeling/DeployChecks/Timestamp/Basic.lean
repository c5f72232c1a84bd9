/-!
# Timestamp/Basic — points in universal time

A timestamp is a civil date and a time of day, to the nanosecond; the sixty-first second of a
minute exists.  Main definitions: `Timestamp`, `Timestamp.write`, `Timestamp.le`.
-/

namespace DeployChecks

namespace Calendar

/-- The year has a twenty-ninth of February. -/
def isLeap (year : Int) : Bool := year % 4 = 0 && (year % 100 ≠ 0 || year % 400 = 0)

/-- The number of days of a month. -/
def daysIn (year : Int) (month : Nat) : Nat :=
  if month = 2 then (if isLeap year then 29 else 28)
  else if month = 4 || month = 6 || month = 9 || month = 11 then 30
  else 31

/-- The years that a date may have. -/
def yearInRange (year : Int) : Bool := -262143 ≤ year && year ≤ 262142

/-- The fields make a date. -/
def isDate (year : Int) (month day : Nat) : Bool :=
  yearInRange year && 1 ≤ month && month ≤ 12 && 1 ≤ day && day ≤ daysIn year month

/-- The fields make a time of day. -/
def isTime (hour minute second nano : Nat) : Bool :=
  hour ≤ 23 && minute ≤ 59 && second ≤ 60 && nano < 1000000000

end Calendar

/-- **A point in universal time.** -/
structure Timestamp where
  /-- The year, counted through zero. -/
  year : Int
  /-- The month, from one on. -/
  month : Nat
  /-- The day of the month, from one on. -/
  day : Nat
  /-- The hour. -/
  hour : Nat
  /-- The minute. -/
  minute : Nat
  /-- The second, sixty in a minute that has one more. -/
  second : Nat
  /-- The nanosecond. -/
  nano : Nat
  /-- The date exists. -/
  isDate : Calendar.isDate year month day = true
  /-- The time of day exists. -/
  isTime : Calendar.isTime hour minute second nano = true
  deriving DecidableEq

namespace Timestamp

/-- The timestamp with the given fields, if there is one. -/
def ofFields? (year : Int) (month day hour minute second nano : Nat) : Option Timestamp :=
  if hd : Calendar.isDate year month day = true then
    if ht : Calendar.isTime hour minute second nano = true then
      some ⟨year, month, day, hour, minute, second, nano, hd, ht⟩
    else none
  else none

/-- The first instant of the epoch. -/
def epoch : Timestamp := ⟨1970, 1, 1, 0, 0, 0, 0, by decide, by decide⟩

instance : Inhabited Timestamp := ⟨epoch⟩

/-- The fields in the order of their weight. -/
def fields (t : Timestamp) : List Int :=
  [t.year, t.month, t.day, t.hour, t.minute, t.second, t.nano]

/-- The first difference of two lists decides their order. -/
def fieldsLe : List Int → List Int → Bool
  | [], _ => true
  | _ :: _, [] => false
  | x :: xs, y :: ys => x < y || (x == y && fieldsLe xs ys)

/-- **The order of time**, on the fields by weight. -/
def le (a b : Timestamp) : Bool := fieldsLe a.fields b.fields

/-! ## Text -/

/-- A number with zeros in front, to the given width. -/
def padded (width n : Nat) : List Char :=
  let digits := Nat.toDigits 10 n
  List.replicate (width - digits.length) '0' ++ digits

/-- A year: four digits, or a sign and at least four. -/
def writeYear (year : Int) : List Char :=
  if 0 ≤ year && year ≤ 9999 then padded 4 year.natAbs
  else (if year < 0 then '-' else '+') :: padded 4 year.natAbs

/-- A fraction of a second: nothing, or the least of three, six and nine digits that is exact. -/
def writeFraction (nano : Nat) : List Char :=
  if nano = 0 then []
  else if nano % 1000000 = 0 then '.' :: padded 3 (nano / 1000000)
  else if nano % 1000 = 0 then '.' :: padded 6 (nano / 1000)
  else '.' :: padded 9 nano

/-- The date and the time of day, without the zone. -/
def writeLocal (t : Timestamp) : List Char :=
  writeYear t.year ++ '-' :: padded 2 t.month ++ '-' :: padded 2 t.day ++ 'T' :: padded 2 t.hour
    ++ ':' :: padded 2 t.minute ++ ':' :: padded 2 t.second ++ writeFraction t.nano

/-- **The written form**, ending in the letter of the zone. -/
def write (t : Timestamp) : String := String.ofList (t.writeLocal ++ ['Z'])

/-- The written form with the zone as an offset. -/
def writeOffset (t : Timestamp) : String :=
  String.ofList (t.writeLocal ++ ['+', '0', '0', ':', '0', '0'])

end Timestamp

end DeployChecks
