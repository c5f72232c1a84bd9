import DeployChecks.Settings.Basic
import DeployChecks.Settings.File
import DeployChecks.Settings.Key
import DeployChecks.Settings.Override

/-!
# Settings/Layers — settings from a file and from variables

The defaults lie under a file, whatever is read as one, and the file under the variables.  Main
definitions: `Settings.layers?`, `EngineSettings.load`.
-/

namespace DeployChecks

namespace Settings

/-- A setting read as its type; the default where it is not set. -/
def setting? {α : Type} (read? : Tree → Option α) (standard : α) (find? : String → Option Tree)
    (name : String) : Option α :=
  match find? name with
  | some v => read? v
  | none => some standard

end Settings

namespace TelemetrySettings

open Settings (Tree setting?)

/-- The names of the settings in order. -/
def names : List String :=
  ["enabled", "otlp_endpoint", "service_name", "service_version", "deployment_environment",
    "sample_rate"]

/-- The settings found under their names. -/
def ofMembers? (find? : String → Option Tree) : Option TelemetrySettings :=
  TelemetrySettings.mk <$> setting? Tree.bool? standard.enabled find? "enabled"
    <*> setting? Tree.text? standard.otlpEndpoint find? "otlp_endpoint"
    <*> setting? Tree.text? standard.serviceName find? "service_name"
    <*> setting? Tree.text? standard.serviceVersion find? "service_version"
    <*> setting? Tree.text? standard.deploymentEnvironment find? "deployment_environment"
    <*> setting? Tree.double? standard.sampleRate find? "sample_rate"

/-- **The settings of a tree**: a group, or a list in the order of their names. -/
def ofTree? : Tree → Option TelemetrySettings
  | .table members => ofMembers? fun name => members.lookup name
  | .list items => ofMembers? fun name => (names.zip items).lookup name
  | _ => none

end TelemetrySettings

namespace EngineSettings

open Settings (Tree setting?)

/-- **The settings of a tree.** -/
def ofTree? (t : Tree) : Option EngineSettings :=
  let find? (name : String) : Option Tree := t.members.lookup name
  EngineSettings.mk <$> setting? Tree.text? standard.defaultNamespace find? "default_namespace"
    <*> setting? Tree.count? standard.eventChannelCapacity find? "event_channel_capacity"
    <*> setting? TelemetrySettings.ofTree? standard.telemetry find? "telemetry"

end EngineSettings

namespace Settings

/-- **The layers of a file and of variables**, if the file can be read. -/
def layers? {φ : Type} [Readable φ] (file : Option φ) (env : StringMap String) : Option Tree :=
  let below : Option (List (String × Tree)) :=
    match file with
    | some f => Readable.read? f
    | none => some []
  below.map fun l => ((Tree.table []).assignAll l).assignAll (ofVariables env)

end Settings

/-- **The settings that a file and variables give**, if they can be read and meet all
conditions. -/
def EngineSettings.load {φ : Type} [Settings.Readable φ] (file : Option φ)
    (env : StringMap String) : Except SettingsError EngineSettings :=
  match (Settings.layers? file env).bind EngineSettings.ofTree? with
  | some s => s.checked
  | none => .error .load

end DeployChecks
