import DeployChecks.Decimal.Reading
import DeployChecks.Log.Record
import DeployChecks.Text.Blank

/-!
# Log/Filter — which records are shown

A filter is written as directives with commas between them.  A directive is a level for everything,
or it tells for which records it holds: those whose target begins in some way, those that have a
place for some value.  Of the directives that hold for a record the most specific one decides.
Main definitions: `Log.Directive`, `Log.Filter`, `Filter.read`, `Filter.admits`.
-/

namespace DeployChecks

namespace Log

/-- **A condition on a named value.** -/
structure FieldTest where
  /-- The name of the value. -/
  name : String
  /-- What the value is to be, if that is told. -/
  value : Option String
  deriving DecidableEq, Repr

/-- **A part of a filter.** -/
structure Directive where
  /-- What the targets of the records begin with; none if that does not matter. -/
  target : Option (List Char)
  /-- The name of the span around the records, if that is told. -/
  span : Option String
  /-- The condition on a value, if there is one. -/
  field : Option FieldTest
  /-- The least important level that is shown; none if nothing is. -/
  least : Option Level
  deriving DecidableEq, Repr

/-- **A filter.** -/
abbrev Filter := List Directive

/-! ## Reading -/

/-- The least level of a number, none within for nothing at all. -/
def levelOfRank? (n : Nat) : Option (Option Level) :=
  if n = 0 then some none
  else ([Level.error, .warn, .info, .debug, .trace].find? (·.rank = n)).map some

/-- The least level that a word or a number names. -/
def levelOfWord? (cs : List Char) : Option (Option Level) :=
  let word := String.ofList (cs.map Char.toLower)
  match Decimal.readCount? word with
  | some n => levelOfRank? n
  | none =>
    if word = "off" then some none
    else if word = "error" then some (some .error)
    else if word = "warn" then some (some .warn)
    else if word = "info" then some (some .info)
    else if word = "debug" then some (some .debug)
    else if word = "trace" then some (some .trace)
    else none

/-- The least level after the equals sign: without a word everything is shown. -/
def levelAfter? (cs : List Char) : Option (Option Level) :=
  if cs.isEmpty then some (some .trace) else levelOfWord? cs

/-- The character may stand in front of a directive without brackets. -/
def startsTarget (c : Char) : Bool :=
  c.isAlphanum || c = '-' || c = ':' || c = '_' || 127 < c.toNat

/-- A condition on a value, in braces. -/
def FieldTest.read? (cs : List Char) : Option FieldTest :=
  let r := cs.span (· ≠ '=')
  match cs, r.2 with
  | [], _ => none
  | _, [] => some ⟨String.ofList r.1, none⟩
  | _, _ :: value => some ⟨String.ofList r.1, some (String.ofList (value.takeWhile (· ≠ '=')))⟩

/-- What stands behind the brackets: blanks, or an equals sign and a level. -/
def levelBehind? : List Char → Option (Option Level)
  | '=' :: word => levelAfter? word
  | cs => if cs.all Text.isBlank then some (some .trace) else none

/-- A directive after its opening bracket: the name of a span, a condition in braces, or both. -/
def readBrackets? (target : Option (List Char)) (cs : List Char) : Option Directive :=
  let r := cs.span fun c => c ≠ ']' && c ≠ '\x7b'
  let name := String.ofList r.1
  match r.2 with
  | ']' :: rest => (levelBehind? rest).map fun least => ⟨target, some name, none, least⟩
  | '\x7b' :: rest =>
    match rest.span (· ≠ '\x7d') with
    | (inner, '\x7d' :: ']' :: rest) =>
      (FieldTest.read? inner).bind fun test => (levelBehind? rest).map fun least =>
        ⟨target, if name.isEmpty then none else some name, some test, least⟩
    | _ => none
  | _ => none

/-- **A directive**, if the text is one: a target without a level shows everything. -/
def Directive.read? : List Char → Option Directive
  | [] => none
  | '[' :: rest => readBrackets? none rest
  | c :: rest =>
    if !startsTarget c then none
    else
      let r := (c :: rest).span fun c => c ≠ '=' && c ≠ '['
      match r.2 with
      | [] =>
        match levelOfWord? r.1 with
        | some least => some ⟨none, none, none, least⟩
        | none => some ⟨some r.1, none, none, some .trace⟩
      | '=' :: word => (levelAfter? word).map fun least => ⟨some r.1, none, none, least⟩
      | _ :: rest => readBrackets? (some r.1) rest

/-- **The filter of a text.**  What is no directive does not count; where nothing counts, errors
are shown. -/
def Filter.read (s : String) : Filter :=
  match (s.toList.splitOn ',').filterMap Directive.read? with
  | [] => [⟨none, none, none, some .error⟩]
  | l => l

/-! ## Decision -/

namespace Directive

/-- **The directive holds for a record** of a target.  One that asks for a span or for what a value
is holds for none, since records stand outside spans and are judged before their values are
known. -/
def holdsFor (d : Directive) (target : String) (r : Record) : Bool :=
  d.span.isNone && d.target.all (·.isPrefixOf target.toList)
    && d.field.all fun test => test.value.isNone && r.hasPlace test.name

/-- How much the directive says about the target: nothing, or its length. -/
def targetWeight (d : Directive) : Nat := d.target.elim 0 (·.length + 1)

/-- The first directive is more specific than the second: its target is longer, or, with the same
target, it alone asks for a value, or for one whose name comes later. -/
def outranks (d e : Directive) : Bool :=
  if d.targetWeight = e.targetWeight then
    match d.field, e.field with
    | some t, some u => u.name < t.name
    | some _, none => true
    | none, _ => false
  else e.targetWeight < d.targetWeight

/-- The more specific of two directives, the second if they are equally specific. -/
def narrower (d e : Directive) : Directive := if d.outranks e then d else e

end Directive

/-- The directive that decides about a record of a target. -/
def Filter.decisive? (f : Filter) (target : String) (r : Record) : Option Directive :=
  (f.filter fun d => d.holdsFor target r).foldl
    (fun best d => some (best.elim d fun b => b.narrower d)) none

/-- **The records of a target are shown.** -/
def Filter.admits (f : Filter) (target : String) (r : Record) : Bool :=
  match (f.decisive? target r).bind Directive.least with
  | some least => r.level.rank ≤ least.rank
  | none => false

end Log

end DeployChecks
