import DeployChecks.Json.Parser
import DeployChecks.Json.Printer

/-!
# Json/Decode — typed values from JSON

A decoder turns a spelled value into a value of a type, or says what is wrong with it.  A record
is described by its fields; it decodes from an object, its members taken in the order of the text,
or from a list that holds the fields in the order of their declaration.  Main definitions:
`Decoder`, `Fields`, `Fields.decoder`, `Codec`.
-/

namespace DeployChecks

namespace Json

/-- **Why a value does not decode.** -/
inductive DecodeError where
  /-- A field without a default is not there. -/
  | missingField (name : String)
  /-- A field is there twice. -/
  | duplicateField (name : String)
  /-- A name stands where one of some others is expected; `alone` holds unless the name is the
  first of several in an object. -/
  | unknownVariant (name : String) (expected : List String) (alone : Bool)
  /-- The value is of another form, or out of range. -/
  | mismatch
  deriving DecidableEq, Repr

/-- A name between backticks. -/
def ticked (name : String) : String := "\x60" ++ name ++ "\x60"

/-- **The wording of an error**, where it has one. -/
def DecodeError.message? : DecodeError → Option String
  | .missingField name => some ("missing field " ++ ticked name)
  | .duplicateField name => some ("duplicate field " ++ ticked name)
  | .unknownVariant name expected _ =>
    let choice := match expected with
      | [a] => ticked a
      | [a, b] => ticked a ++ " or " ++ ticked b
      | l => "one of " ++ ", ".intercalate (l.map ticked)
    some ("unknown variant " ++ ticked name ++ ", expected " ++ choice)
  | .mismatch => none

/-- **A decoder**: it knows in how many lists and objects the value stands. -/
abbrev Decoder (α : Type) := Nat → Raw → Except DecodeError α

namespace Decoder

variable {α : Type}

/-- A text. -/
def text : Decoder String
  | _, .string (some s) => .ok s
  | _, _ => .error .mismatch

/-- A truth value. -/
def bool : Decoder Bool
  | _, .bool b => .ok b
  | _, _ => .error .mismatch

/-- An integer from zero up to below a bound. -/
def natBelow (bound : Nat) : Decoder Nat
  | _, .number (some (.int n)) => if 0 ≤ n ∧ n < bound then .ok n.toNat else .error .mismatch
  | _, _ => .error .mismatch

/-- A double, or an integer as the nearest double. -/
def double : Decoder Binary64
  | _, .number (some (.int n)) => .ok (.ofInt n)
  | _, .number (some (.double x)) => .ok x
  | _, _ => .error .mismatch

/-- Any value, within the limit on nesting. -/
def json : Decoder Json := fun depth v =>
  match ofRaw? (maxNesting - depth) v with
  | some x => .ok x
  | none => .error .mismatch

/-- A value or null. -/
def option (d : Decoder α) : Decoder (Option α)
  | _, .null => .ok none
  | depth, v => (d depth v).map some

/-- A text that is read further. -/
def textual (read? : String → Option α) : Decoder α := fun depth v =>
  (text depth v).bind fun s =>
    match read? s with
    | some x => .ok x
    | none => .error .mismatch

/-- Decode items in order. -/
def items (d : Decoder α) (depth : Nat) : List Raw → Except DecodeError (List α)
  | [] => .ok []
  | v :: rest => (d depth v).bind fun x => (items d depth rest).map (x :: ·)

/-- A list. -/
def list (d : Decoder α) : Decoder (List α)
  | depth, .array vs => items d (depth + 1) vs
  | _, _ => .error .mismatch

/-- Decode the members of an object in order, whatever their names. -/
def entries (d : Decoder α) (depth : Nat) :
    List (Option String × Raw) → Except DecodeError (List (String × α))
  | [] => .ok []
  | (none, _) :: _ => .error .mismatch
  | (some k, v) :: rest => (d depth v).bind fun x => (entries d depth rest).map ((k, x) :: ·)

/-- A map from texts; the last of one name counts. -/
def stringMap (d : Decoder α) : Decoder (StringMap α)
  | depth, .object members => (entries d (depth + 1) members).map StringMap.ofList
  | _, _ => .error .mismatch

/-- **One of several variants**: without a payload, or with one that decodes to the value. -/
inductive Variant (α : Type) where
  /-- No payload. -/
  | bare (x : α)
  /-- A payload. -/
  | carrying (d : Decoder α)

/-- **A choice of variants.**  One without a payload is its name alone, or an object with the name
and null; one with a payload is an object with the name and the payload. -/
def variant (variants : List (String × Variant α)) : Decoder α := fun depth v =>
  let pick (name : String) (alone : Bool) : Except DecodeError (Variant α) :=
    match variants.lookup name with
    | some x => .ok x
    | none => .error (.unknownVariant name (variants.map Prod.fst) alone)
  match v with
  | .string (some name) => (pick name true).bind fun
    | .bare x => .ok x
    | .carrying _ => .error .mismatch
  | .object ((some name, payload) :: rest) =>
    (pick name rest.isEmpty).bind fun choice =>
      if rest.isEmpty then
        match choice, payload with
        | .bare x, .null => .ok x
        | .bare _, _ => .error .mismatch
        | .carrying d, payload => d (depth + 1) payload
      else .error .mismatch
  | _ => .error .mismatch

/-- **A choice without payloads.** -/
def choice (names : List (String × α)) : Decoder α :=
  variant (names.map fun e => (e.1, .bare e.2))

end Decoder

/-! ## Records -/

/-- **The fields of a record**: their names with a test of each value, in the order of their
declaration, and how the record is put together from a table of values. -/
structure Fields (α : Type) where
  /-- Names and tests. -/
  checks : List (String × (Nat → Raw → Except DecodeError Unit))
  /-- The record from the values of its fields. -/
  read : Nat → (String → Option Raw) → Except DecodeError α

namespace Fields

variable {α β : Type}

/-- A record without fields. -/
def pure (x : α) : Fields α := ⟨[], fun _ _ => .ok x⟩

/-- One more field. -/
def seq (f : Fields (α → β)) (x : Fields α) : Fields β where
  checks := f.checks ++ x.checks
  read depth table := (f.read depth table).bind fun g => (x.read depth table).map g

instance : Functor Fields where
  map g x := ⟨x.checks, fun depth table => (x.read depth table).map g⟩

instance : Seq Fields where
  seq f x := f.seq (x ())

/-- A field that must be there. -/
def required (name : String) (d : Decoder α) : Fields α where
  checks := [(name, fun depth v => (d depth v).map fun _ => ())]
  read depth table :=
    match table name with
    | some v => d depth v
    | none => .error (.missingField name)

/-- A field with a default. -/
def defaulted (name : String) (d : Decoder α) (default : α) : Fields α where
  checks := [(name, fun depth v => (d depth v).map fun _ => ())]
  read depth table :=
    match table name with
    | some v => d depth v
    | none => .ok default

/-- A field that may be absent or null. -/
def optional (name : String) (d : Decoder α) : Fields (Option α) :=
  defaulted name (Decoder.option d) none

/-- **Test members in the order of the text**: a name of a field must not come twice, and its
value must decode.  Other names are passed over. -/
def test (checks : List (String × (Nat → Raw → Except DecodeError Unit))) (depth : Nat)
    (seen : List String) : List (Option String × Raw) → Except DecodeError Unit
  | [] => .ok ()
  | (none, _) :: _ => .error .mismatch
  | (some name, v) :: rest =>
    match checks.lookup name with
    | none => test checks depth seen rest
    | some check =>
      if seen.contains name then .error (.duplicateField name)
      else (check depth v).bind fun _ => test checks depth (name :: seen) rest

/-- The values of a list under the names of the fields. -/
def positional (f : Fields α) (vs : List Raw) : List (Option String × Raw) :=
  (f.checks.map fun c => some c.1).zip vs

/-- **The decoder of a record.** -/
def decoder (f : Fields α) : Decoder α
  | depth, .object members =>
    (test f.checks (depth + 1) [] members).bind fun _ =>
      f.read (depth + 1) fun name => members.lookup (some name)
  | depth, .array vs =>
    let members := f.positional vs
    (test f.checks (depth + 1) [] members).bind fun _ =>
      match f.read (depth + 1) fun name => members.lookup (some name) with
      | .error _ => .error .mismatch
      | .ok x => if f.checks.length < vs.length then .error .mismatch else .ok x
  | _, _ => .error .mismatch

end Fields

/-! ## Codecs -/

/-- **A type with a JSON form.** -/
class Codec (α : Type) where
  /-- The JSON form. -/
  encode : α → Json
  /-- The way back. -/
  decode : Decoder α

/-- Decode a value that stands alone. -/
def decodeValue (α : Type) [Codec α] (v : Json) : Except DecodeError α :=
  Codec.decode 0 v.toRaw

/-- The compact text of the JSON form. -/
def encodeText {α : Type} [Codec α] (x : α) : String := (Codec.encode x).compact

/-- **Why a text does not decode.** -/
inductive TextError where
  /-- It is not the text of a JSON value. -/
  | notJson
  /-- Its value is not of the type. -/
  | data (e : DecodeError)
  deriving DecidableEq, Repr

/-- **Decoding a text.**  What a record passes over needs to be well formed only; otherwise the
whole text has to have a value. -/
def decodeText (α : Type) [Codec α] (s : String) : Except TextError α :=
  match Raw.parse? s with
  | none => .error .notJson
  | some v =>
    match Codec.decode (α := α) 0 v with
    | .ok x => .ok x
    | .error e => if (ofRaw? maxNesting v).isNone then .error .notJson else .error (.data e)

/-- The member of a record, left out if there is no value. -/
def optionalMember (name : String) (v : Option Json) : List (String × Json) :=
  match v with
  | some v => [(name, v)]
  | none => []

instance : Codec String := ⟨.string, Decoder.text⟩

instance : Codec Json := ⟨id, Decoder.json⟩

instance {α : Type} [Codec α] : Codec (List α) :=
  ⟨fun l => .array (l.map Codec.encode), Decoder.list Codec.decode⟩

end Json

end DeployChecks
