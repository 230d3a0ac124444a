import ContainerCert.Config.Settings
import ContainerCert.Pyxis.Environment

/-!
# The configuration of one run

What one run works with, once all sources of settings are taken together. The host of the
certification service is always known: it is given, or it is that of the environment.
-/

namespace ContainerCert.Config

open Text (quote)

/-- What one run works with. -/
structure RunConfiguration where
  projectId : String
  apiToken : Pyxis.Token
  host : String
  environment : String
  platform : String
  submit : Bool
  insecure : Bool
  dockerConfig : String
  artifacts : String
  logFile : String
  logLevel : String
  junit : Bool
  responseFormat : String
  deriving DecidableEq

namespace RunConfiguration

/-- The configuration that settings make: the artifacts directory must have a name, and the
truth values must read as such. -/
def ofSettings (settings : Settings) : Except ConfigurationError RunConfiguration := do
  let environment := settings.getText .environment
  let artifacts := settings.getText .artifacts
  if artifacts.isEmpty then throw (.empty .artifacts)
  let submit ← settings.getBool .submit
  let insecure ← settings.getBool .insecure
  let junit ← settings.getBool .junit
  return {
    projectId := settings.getText .projectId
    apiToken := ⟨settings.getText .apiToken⟩
    host := Pyxis.hostFor environment (settings.getText .host)
    environment
    platform := settings.getText .platform
    submit
    insecure
    dockerConfig := settings.getText .dockerConfig
    artifacts
    logFile := settings.getText .logFile
    logLevel := settings.getText .logLevel
    junit
    responseFormat := settings.getText .responseFormat }

/-- The configuration as developers see it, the token masked. -/
def summary (config : RunConfiguration) : String :=
  Text.summary "RunConfiguration" [
    ("certification_project_id", quote config.projectId),
    ("pyxis_api_token", config.apiToken.summary),
    ("pyxis_host", quote config.host),
    ("pyxis_env", quote config.environment),
    ("platform", quote config.platform),
    ("submit", Text.summaryBool config.submit),
    ("insecure", Text.summaryBool config.insecure),
    ("docker_config", quote config.dockerConfig),
    ("artifacts", quote config.artifacts),
    ("log_file", quote config.logFile),
    ("log_level", quote config.logLevel),
    ("write_junit", Text.summaryBool config.junit),
    ("response_format", quote config.responseFormat)]

end RunConfiguration
end ContainerCert.Config
