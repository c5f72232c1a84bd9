import DeployChecks.Proofs.Settings.Validity
import DeployChecks.Settings.Layers

/-!
# Proofs/Settings/Leaves — the settings one by one

The eight settings as a family over what they hold, so that one statement speaks of all of them:
the names under which a setting is found, what it is in settings that are read, and how it is read
from a tree.  Settings are read from a tree exactly if each of them is, and the group of telemetry
can be entered.  Main definition: `Leaf`; main statement: `EngineSettings.ofTree?_eq_some_iff`.
-/

namespace DeployChecks

namespace Settings

/-- **What a setting holds.** -/
inductive Kind where
  /-- A truth value. -/
  | flag
  /-- A count. -/
  | count
  /-- A double. -/
  | rate
  /-- A text. -/
  | text

/-- The values of a kind. -/
@[reducible] def Kind.Value : Kind → Type
  | flag => Bool
  | count => Nat
  | rate => Binary64
  | text => String

/-- Reading a value of a kind. -/
def Kind.read? : (k : Kind) → Tree → Option k.Value
  | flag => Tree.bool?
  | count => Tree.count?
  | rate => Tree.double?
  | text => Tree.text?

/-- **The settings**, each of its kind. -/
inductive Leaf : Kind → Type where
  | defaultNamespace : Leaf .text
  | eventChannelCapacity : Leaf .count
  | enabled : Leaf .flag
  | otlpEndpoint : Leaf .text
  | serviceName : Leaf .text
  | serviceVersion : Leaf .text
  | deploymentEnvironment : Leaf .text
  | sampleRate : Leaf .rate

/-- The name of the group of telemetry. -/
def telemetryName : String := "telemetry"

namespace Tree

/-- A list or a group. -/
def isCollection : Tree → Bool
  | list _ => true
  | table _ => true
  | _ => false

/-- **What the group of telemetry holds under a name**; a list holds the settings in the order of
their names. -/
def entry? : Tree → String → Option Tree
  | table members, name => members.lookup name
  | list items, name => (TelemetrySettings.names.zip items).lookup name
  | _, _ => none

end Tree

namespace Leaf

variable {k : Kind}

/-- **The names that lead to a setting**, from the outermost. -/
def path : Leaf k → List String
  | defaultNamespace => ["default_namespace"]
  | eventChannelCapacity => ["event_channel_capacity"]
  | enabled => [telemetryName, "enabled"]
  | otlpEndpoint => [telemetryName, "otlp_endpoint"]
  | serviceName => [telemetryName, "service_name"]
  | serviceVersion => [telemetryName, "service_version"]
  | deploymentEnvironment => [telemetryName, "deployment_environment"]
  | sampleRate => [telemetryName, "sample_rate"]

/-- The name that a variable gives the setting. -/
def key (f : Leaf k) : String := ".".intercalate f.path

/-- The setting belongs to telemetry. -/
def isTelemetry (f : Leaf k) : Bool := f.path.head? = some telemetryName

/-- The setting among settings that are read. -/
def get : Leaf k → EngineSettings → k.Value
  | defaultNamespace, s => s.defaultNamespace
  | eventChannelCapacity, s => s.eventChannelCapacity
  | enabled, s => s.telemetry.enabled
  | otlpEndpoint, s => s.telemetry.otlpEndpoint
  | serviceName, s => s.telemetry.serviceName
  | serviceVersion, s => s.telemetry.serviceVersion
  | deploymentEnvironment, s => s.telemetry.deploymentEnvironment
  | sampleRate, s => s.telemetry.sampleRate

/-- **Where a tree holds the setting.** -/
def find? (f : Leaf k) (t : Tree) : Option Tree :=
  match f.path with
  | [name] => t.members.lookup name
  | [group, name] => (t.members.lookup group).bind fun inner => inner.entry? name
  | _ => none

/-- **The setting read from a tree**; the default where the tree does not hold it. -/
def read? (f : Leaf k) (t : Tree) : Option k.Value :=
  match f.find? t with
  | some v => k.read? v
  | none => some (f.get .standard)

end Leaf

end Settings

/-! ## Settings are read one by one -/

namespace TelemetrySettings

open Settings (Tree Leaf setting?)

theorem ofMembers?_eq_some_iff {find? : String → Option Tree} {s : TelemetrySettings} :
    ofMembers? find? = some s ↔
      setting? Tree.bool? standard.enabled find? "enabled" = some s.enabled ∧
      setting? Tree.text? standard.otlpEndpoint find? "otlp_endpoint" = some s.otlpEndpoint ∧
      setting? Tree.text? standard.serviceName find? "service_name" = some s.serviceName ∧
      setting? Tree.text? standard.serviceVersion find? "service_version" = some s.serviceVersion ∧
      setting? Tree.text? standard.deploymentEnvironment find? "deployment_environment"
        = some s.deploymentEnvironment ∧
      setting? Tree.double? standard.sampleRate find? "sample_rate" = some s.sampleRate := by
  cases s
  simp only [ofMembers?, seq_eq_bind_map, Option.bind_eq_bind, Option.bind_eq_some_iff,
    Option.map_eq_map, Option.map_eq_some_iff]
  constructor
  · rintro ⟨_, ⟨_, ⟨_, ⟨_, ⟨_, ⟨_, enabled, rfl⟩, _, endpoint, rfl⟩, _, name, rfl⟩,
      _, version, rfl⟩, _, environment, rfl⟩, _, rate, ⟨⟩⟩
    exact ⟨enabled, endpoint, name, version, environment, rate⟩
  · rintro ⟨enabled, endpoint, name, version, environment, rate⟩
    exact ⟨_, ⟨_, ⟨_, ⟨_, ⟨_, ⟨_, enabled, rfl⟩, _, endpoint, rfl⟩, _, name, rfl⟩,
      _, version, rfl⟩, _, environment, rfl⟩, _, rate, rfl⟩

/-- Telemetry is read from what can be entered. -/
theorem ofTree?_eq_some_iff {t : Tree} {s : TelemetrySettings} :
    ofTree? t = some s ↔ t.isCollection = true ∧ ofMembers? t.entry? = some s := by
  cases t with
  | table members => exact (and_iff_right rfl).symm
  | list items => exact (and_iff_right rfl).symm
  | _ => simp [ofTree?, Tree.isCollection]

/-- The same where the tree may be missing. -/
theorem setting?_eq_some_iff {find? : String → Option Tree} {name : String}
    {s : TelemetrySettings} :
    setting? ofTree? standard find? name = some s ↔
      (∀ t, find? name = some t → t.isCollection = true) ∧
      ofMembers? (fun inner => (find? name).bind fun t => t.entry? inner) = some s := by
  rw [setting?]
  cases find? name with
  | none => exact ⟨fun same => ⟨nofun, same⟩, And.right⟩
  | some t =>
    rw [ofTree?_eq_some_iff]
    exact and_congr_left' ⟨fun inside _ same => Option.some.inj same ▸ inside, fun all => all t rfl⟩

end TelemetrySettings

namespace EngineSettings

open Settings (Tree Leaf setting? telemetryName)

/-- **Settings are read from a tree exactly if each of them is**, and what it holds of telemetry can
be entered. -/
theorem ofTree?_eq_some_iff {t : Tree} {s : EngineSettings} :
    ofTree? t = some s ↔
      (∀ v, t.members.lookup telemetryName = some v → v.isCollection = true) ∧
      ∀ {k} (f : Leaf k), f.read? t = some (f.get s) := by
  have parts : ofTree? t = some s ↔
      Leaf.defaultNamespace.read? t = some s.defaultNamespace ∧
      Leaf.eventChannelCapacity.read? t = some s.eventChannelCapacity ∧
      setting? TelemetrySettings.ofTree? .standard (t.members.lookup ·) telemetryName
        = some s.telemetry := by
    obtain ⟨ns, capacity, telemetry⟩ := s
    simp only [ofTree?, seq_eq_bind_map, Option.bind_eq_bind, Option.bind_eq_some_iff,
      Option.map_eq_map, Option.map_eq_some_iff]
    constructor
    · rintro ⟨_, ⟨_, ⟨_, ns, rfl⟩, _, capacity, rfl⟩, _, telemetry, ⟨⟩⟩
      exact ⟨ns, capacity, telemetry⟩
    · rintro ⟨ns, capacity, telemetry⟩
      exact ⟨_, ⟨_, ⟨_, ns, rfl⟩, _, capacity, rfl⟩, _, telemetry, rfl⟩
  rw [parts, TelemetrySettings.setting?_eq_some_iff, TelemetrySettings.ofMembers?_eq_some_iff]
  constructor
  · rintro ⟨ns, capacity, entered, enabled, endpoint, name, version, environment, rate⟩
    refine ⟨entered, fun f => ?_⟩
    cases f with
    | defaultNamespace => exact ns
    | eventChannelCapacity => exact capacity
    | enabled => exact enabled
    | otlpEndpoint => exact endpoint
    | serviceName => exact name
    | serviceVersion => exact version
    | deploymentEnvironment => exact environment
    | sampleRate => exact rate
  · rintro ⟨entered, each⟩
    exact ⟨each .defaultNamespace, each .eventChannelCapacity, entered, each .enabled,
      each .otlpEndpoint, each .serviceName, each .serviceVersion, each .deploymentEnvironment,
      each .sampleRate⟩

end EngineSettings

/-! ## Settings are loaded in layers -/

namespace Settings

/-- **What is written in the file**; nothing if there is no file.  A file that cannot be read is
missing. -/
def written? {φ : Type} [Readable φ] : Option φ → Option (List (String × Tree))
  | some f => Readable.read? f
  | none => some []

/-- **What a file holds**, as a tree. -/
def fileLayer (l : List (String × Tree)) : Tree := (Tree.table []).assignAll l

/-- The variables lie over the file. -/
theorem layers?_eq {φ : Type} [Readable φ] (file : Option φ) (env : StringMap String) :
    layers? file env = (written? file).map fun l => (fileLayer l).assignAll (ofVariables env) := by
  cases file <;> rfl

end Settings

namespace EngineSettings

open Settings (fileLayer ofVariables written?)

variable {φ : Type} [Settings.Readable φ] {file : Option φ} {env : StringMap String}
  {s : EngineSettings}
  {l : List (String × Settings.Tree)}

/-- Settings are read from both layers and checked. -/
theorem load_eq (readable : written? file = some l) :
    load file env = match ofTree? ((fileLayer l).assignAll (ofVariables env)) with
      | some s => s.checked
      | none => .error .load := by
  rw [load, Settings.layers?_eq, readable]
  rfl

theorem load_of_unreadable (unreadable : written? file = none) : load file env = .error .load := by
  rw [load, Settings.layers?_eq, unreadable]
  rfl

/-- What is loaded was read from both layers. -/
theorem exists_of_load (loaded : load file env = .ok s) :
    ∃ l, ofTree? ((fileLayer l).assignAll (ofVariables env)) = some s := by
  cases readable : written? file with
  | none => rw [load_of_unreadable readable] at loaded; cases loaded
  | some l =>
    rw [load_eq readable] at loaded
    cases read : ofTree? ((fileLayer l).assignAll (ofVariables env)) with
    | none => rw [read] at loaded; cases loaded
    | some s' =>
      rw [read] at loaded
      obtain ⟨rfl, -⟩ := checked_eq_ok_iff.1 loaded
      exact ⟨l, read⟩

end EngineSettings

end DeployChecks
