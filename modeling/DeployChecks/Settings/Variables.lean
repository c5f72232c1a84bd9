import DeployChecks.Decimal.Reading
import DeployChecks.Settings.Basic
import DeployChecks.Text.Lowercase

/-!
# Settings/Variables — telemetry settings from the usual variables

Main definition: `TelemetrySettings.ofVariables`.
-/

namespace DeployChecks

namespace TelemetrySettings

/-- **The defaults, overridden by the variables that are set.**  A rate that is no number does not
count. -/
def ofVariables (env : StringMap String) : TelemetrySettings where
  enabled := match env.find? "TELEMETRY_ENABLED" with
    | some v => Text.lowercase v = "true"
    | none => standard.enabled
  otlpEndpoint := (env.find? "OTEL_EXPORTER_OTLP_ENDPOINT").getD standard.otlpEndpoint
  serviceName := (env.find? "OTEL_SERVICE_NAME").getD standard.serviceName
  serviceVersion := (env.find? "OTEL_SERVICE_VERSION").getD standard.serviceVersion
  deploymentEnvironment := (env.find? "DEPLOYMENT_ENVIRONMENT").getD standard.deploymentEnvironment
  sampleRate :=
    ((env.find? "OTEL_TRACES_SAMPLER_ARG").bind Decimal.read?).getD standard.sampleRate

end TelemetrySettings

end DeployChecks
