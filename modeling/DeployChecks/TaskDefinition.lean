import DeployChecks.Json.Decode

/-!
# TaskDefinition — templates for tasks

A definition lives in a namespace under a name.  Main definitions: `TaskDefinition`, its key, and
the limits that hold where it sets none.
-/

namespace DeployChecks

/-- **What a definition asks for.** -/
structure TaskDefinitionSpec where
  /-- What to run, in the terms of whoever runs it. -/
  runtime : Json
  /-- Named arguments. -/
  parameters : StringMap String
  /-- The name of the secret with further arguments. -/
  secureParameters : Option String
  /-- How often to try again. -/
  retries : Option UInt32
  /-- How long a try may take. -/
  timeoutSeconds : Option UInt64

/-- **A template that tasks are stamped from.** -/
structure TaskDefinition where
  /-- The name. -/
  name : String
  /-- The namespace. -/
  ns : String
  /-- What it asks for. -/
  spec : TaskDefinitionSpec

/-- A number of thirty-two bits. -/
def Json.Decoder.word32 : Json.Decoder UInt32 := fun depth v =>
  (Json.Decoder.natBelow UInt32.size depth v).map UInt32.ofNat

/-- A number of sixty-four bits. -/
def Json.Decoder.word64 : Json.Decoder UInt64 := fun depth v =>
  (Json.Decoder.natBelow UInt64.size depth v).map UInt64.ofNat

namespace TaskDefinitionSpec

/-- The spec that asks for nothing. -/
def empty : TaskDefinitionSpec := ⟨.null, {}, none, none, none⟩

instance : Inhabited TaskDefinitionSpec := ⟨empty⟩

/-- The fields of the JSON form. -/
def fields : Json.Fields TaskDefinitionSpec :=
  TaskDefinitionSpec.mk <$> .defaulted "runtime" .json .null
    <*> .defaulted "parameters" (.stringMap .text) {} <*> .optional "secureParameters" .text
    <*> .optional "retries" .word32 <*> .optional "timeoutSeconds" .word64

instance : Json.Codec TaskDefinitionSpec where
  encode s := .object <|
    [("runtime", s.runtime), ("parameters", .stringMap s.parameters)]
      ++ Json.optionalMember "secureParameters" (s.secureParameters.map .string)
      ++ Json.optionalMember "retries" (s.retries.map fun n => .nat n.toNat)
      ++ Json.optionalMember "timeoutSeconds" (s.timeoutSeconds.map fun n => .nat n.toNat)
  decode := fields.decoder

end TaskDefinitionSpec

namespace TaskDefinition

/-- The number of tries where a definition sets none. -/
def defaultRetries : UInt32 := 10

/-- The time limit where a definition sets none. -/
def defaultTimeoutSeconds : UInt64 := 300

/-- A definition that asks for nothing. -/
def bare (name ns : String) : TaskDefinition := ⟨name, ns, .empty⟩

instance : Inhabited TaskDefinition := ⟨bare "" ""⟩

/-- Add a named argument, over one of the same name. -/
def withParameter (d : TaskDefinition) (key value : String) : TaskDefinition :=
  { d with spec := { d.spec with parameters := d.spec.parameters.insert key value } }

/-- Set what to run. -/
def withRuntime (d : TaskDefinition) (runtime : Json) : TaskDefinition :=
  { d with spec := { d.spec with runtime } }

/-- How often to try again. -/
def retries (d : TaskDefinition) : UInt32 := d.spec.retries.getD defaultRetries

/-- How long a try may take. -/
def timeoutSeconds (d : TaskDefinition) : UInt64 := d.spec.timeoutSeconds.getD defaultTimeoutSeconds

/-- The fields of the JSON form. -/
def fields : Json.Fields TaskDefinition :=
  TaskDefinition.mk <$> .required "name" .text <*> .required "namespace" .text
    <*> .required "spec" Json.Codec.decode

instance : Json.Codec TaskDefinition where
  encode d := .object
    [("name", .string d.name), ("namespace", .string d.ns), ("spec", Json.Codec.encode d.spec)]
  decode := fields.decoder

end TaskDefinition

/-- **Where a definition is found.** -/
structure DefinitionKey where
  /-- The namespace. -/
  ns : String
  /-- The name. -/
  name : String
  deriving DecidableEq, Repr

/-- A key as text. -/
def DefinitionKey.text (k : DefinitionKey) : String := s!"{k.ns}/{k.name}"

/-- The key of a definition. -/
def TaskDefinition.key (d : TaskDefinition) : DefinitionKey := ⟨d.ns, d.name⟩

end DeployChecks
