import DeployChecks.DefinitionRegistry
import DeployChecks.EventChannel
import DeployChecks.Json.Decode
import DeployChecks.Text.Blank

/-!
# Settings/Basic — what can be set

The settings of the engine and of its telemetry, with their defaults and the conditions that they
have to meet.  Main definitions: `TelemetrySettings`, `EngineSettings`, and `violation?` for each.
-/

namespace DeployChecks

/-- **Why settings are refused.** -/
inductive SettingsError where
  /-- They cannot be read. -/
  | load
  /-- A value is not allowed. -/
  | invalid (field reason : String)
  deriving DecidableEq, Repr

/-- The wording of an error, where it has one of its own. -/
def SettingsError.message : SettingsError → String
  | load => "failed to load configuration"
  | invalid field reason => s!"invalid configuration value for {field}: {reason}"

/-- **The settings of telemetry.** -/
structure TelemetrySettings where
  /-- Spans are sent out. -/
  enabled : Bool
  /-- Where they are sent. -/
  otlpEndpoint : String
  /-- The name of the service. -/
  serviceName : String
  /-- Its version. -/
  serviceVersion : String
  /-- Where it runs. -/
  deploymentEnvironment : String
  /-- The part of the traces that is recorded. -/
  sampleRate : Binary64
  deriving DecidableEq, Repr

/-- **The settings of the engine.** -/
structure EngineSettings where
  /-- The namespace in which definitions are shared. -/
  defaultNamespace : String
  /-- How many events wait for one receiver at most. -/
  eventChannelCapacity : Nat
  /-- The settings of telemetry. -/
  telemetry : TelemetrySettings
  deriving DecidableEq, Repr

namespace TelemetrySettings

/-- **The defaults.** -/
def standard : TelemetrySettings where
  enabled := false
  otlpEndpoint := "http://localhost:4317"
  serviceName := "keptn-lifecycle-operator"
  serviceVersion := "0.1.0"
  deploymentEnvironment := "development"
  sampleRate := .one

instance : Inhabited TelemetrySettings := ⟨standard⟩

/-- The rate lies between zero and one, both included. -/
def rateInRange (rate : Binary64) : Bool := (Binary64.zero false).le rate && rate.le .one

/-- **The first condition that the settings violate.** -/
def violation? (s : TelemetrySettings) : Option SettingsError :=
  if !rateInRange s.sampleRate then
    some (.invalid "telemetry.sample_rate"
      s!"{Decimal.plain.write s.sampleRate} is outside 0.0..=1.0")
  else if s.enabled && s.otlpEndpoint.isEmpty then
    some (.invalid "telemetry.otlp_endpoint" "required when telemetry is enabled")
  else none

/-- The fields of the JSON form. -/
def fields : Json.Fields TelemetrySettings :=
  TelemetrySettings.mk <$> .defaulted "enabled" .bool standard.enabled
    <*> .defaulted "otlp_endpoint" .text standard.otlpEndpoint
    <*> .defaulted "service_name" .text standard.serviceName
    <*> .defaulted "service_version" .text standard.serviceVersion
    <*> .defaulted "deployment_environment" .text standard.deploymentEnvironment
    <*> .defaulted "sample_rate" .double standard.sampleRate

instance : Json.Codec TelemetrySettings where
  encode s := .object
    [("enabled", .bool s.enabled), ("otlp_endpoint", .string s.otlpEndpoint),
      ("service_name", .string s.serviceName), ("service_version", .string s.serviceVersion),
      ("deployment_environment", .string s.deploymentEnvironment),
      ("sample_rate", .number (.double s.sampleRate))]
  decode := fields.decoder

end TelemetrySettings

namespace EngineSettings

/-- **The defaults.** -/
def standard : EngineSettings :=
  ⟨DefinitionRegistry.standardNamespace, EventChannel.standardCapacity, .standard⟩

instance : Inhabited EngineSettings := ⟨standard⟩

/-- **The first condition that the settings violate.** -/
def violation? (s : EngineSettings) : Option SettingsError :=
  if Text.blank s.defaultNamespace then
    some (.invalid "default_namespace" "must not be empty")
  else if s.eventChannelCapacity = 0 then
    some (.invalid "event_channel_capacity" "must be greater than zero")
  else s.telemetry.violation?

/-- The settings, if they meet all conditions. -/
def checked (s : EngineSettings) : Except SettingsError EngineSettings :=
  match s.violation? with
  | some e => .error e
  | none => .ok s

/-- The fields of the JSON form. -/
def fields : Json.Fields EngineSettings :=
  EngineSettings.mk <$> .defaulted "default_namespace" .text standard.defaultNamespace
    <*> .defaulted "event_channel_capacity" (.natBelow UInt64.size) standard.eventChannelCapacity
    <*> .defaulted "telemetry" Json.Codec.decode standard.telemetry

instance : Json.Codec EngineSettings where
  encode s := .object
    [("default_namespace", .string s.defaultNamespace),
      ("event_channel_capacity", .nat s.eventChannelCapacity),
      ("telemetry", Json.Codec.encode s.telemetry)]
  decode := fields.decoder

end EngineSettings

end DeployChecks
