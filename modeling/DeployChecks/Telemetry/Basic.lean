import DeployChecks.Settings.Basic
import DeployChecks.Telemetry.Endpoint
import DeployChecks.Text.Quoted
import DeployChecks.Trace.Tracer

/-!
# Telemetry/Basic — the tracer that the settings ask for

Main definitions: `Telemetry.init?`, `Telemetry.shutDown`, `Telemetry.inspect`.
-/

namespace DeployChecks

open Trace (IdSource Sampler Tracer)

/-- **Why telemetry does not work.** -/
inductive TelemetryError where
  /-- There is no way to send spans. -/
  | exporter (text : String)
  /-- The tracer does not stop. -/
  | shutdown (text : String)
  deriving DecidableEq, Repr

/-- The wording of an error. -/
def TelemetryError.message : TelemetryError → String
  | exporter text => s!"failed to build span exporter: {text}"
  | shutdown text => s!"failed to shut down tracer provider: {text}"

/-- **Telemetry**: the settings, and the tracer made from them. -/
structure Telemetry where
  /-- The settings. -/
  settings : TelemetrySettings
  /-- The tracer. -/
  tracer : Tracer

namespace Telemetry

/-- **The sampler for a rate.** -/
def samplerFor (rate : Binary64) : Sampler :=
  if Binary64.one.le rate then .always
  else if rate.le (.zero false) then .never
  else .ratio rate

/-- **Telemetry from settings.**  Where spans are sent out, the endpoint has to be usable. -/
def init (settings : TelemetrySettings) (ids : IdSource) : Except TelemetryError Telemetry :=
  if settings.enabled && !Endpoint.isUsable settings.otlpEndpoint then
    .error (.exporter "invalid endpoint")
  else .ok ⟨settings, .new ids (samplerFor settings.sampleRate)⟩

/-- No more spans are recorded. -/
def isShutDown (t : Telemetry) : Bool := t.tracer.isShutDown

/-- **Stop recording**, once and for all. -/
def shutDown (t : Telemetry) : Telemetry :=
  { t with tracer := { t.tracer with isShutDown := true } }

/-- A truth value as it is shown on inspection. -/
def inspectBool (b : Bool) : String := if b then "true" else "false"

/-- Settings as they are shown on inspection. -/
def inspectSettings (s : TelemetrySettings) : String :=
  s!"TelemetryConfig \x7b enabled: {inspectBool s.enabled}, " ++
    s!"otlp_endpoint: {Text.quoted s.otlpEndpoint}, service_name: {Text.quoted s.serviceName}, " ++
    s!"service_version: {Text.quoted s.serviceVersion}, " ++
    s!"deployment_environment: {Text.quoted s.deploymentEnvironment}, " ++
    s!"sample_rate: {Decimal.inspection.write s.sampleRate} \x7d"

/-- **Telemetry as it is shown on inspection.** -/
def inspect (t : Telemetry) : String :=
  s!"Telemetry \x7b config: {inspectSettings t.settings}, " ++
    s!"shut_down: {inspectBool t.isShutDown} \x7d"

end Telemetry

end DeployChecks
