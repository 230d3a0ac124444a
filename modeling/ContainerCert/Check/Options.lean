import ContainerCert.Config.RunConfiguration

/-!
# Options of the check engine

The engine gets what it works with as a list of options. Options apply in order, and a later one
of a kind replaces an earlier one. A run over an insecure connection never submits its results:
making its options turns the submission off.
-/

namespace ContainerCert.Check

open Config (RunConfiguration)
open Text (quote)

/-- A setting for the check engine. -/
inductive CheckOption where
  /-- The project that is certified, and the token to look it up with. -/
  | project (id : String) (token : Pyxis.Token)
  /-- The file with the credentials for registries. -/
  | dockerConfig (path : String)
  | host (host : String)
  | platform (platform : String)
  | insecure
  deriving DecidableEq

/-- What the check engine works with. -/
structure EngineSettings where
  projectId : String
  apiToken : Pyxis.Token
  dockerConfig : String
  host : String
  platform : String
  insecure : Bool
  deriving DecidableEq

namespace EngineSettings

/-- The settings before any option. -/
def initial : EngineSettings :=
  ⟨"", .none, "", "", "", false⟩

/-- Apply an option. -/
def apply (settings : EngineSettings) : CheckOption → EngineSettings
  | .project id token => { settings with projectId := id, apiToken := token }
  | .dockerConfig path => { settings with dockerConfig := path }
  | .host host => { settings with host }
  | .platform platform => { settings with platform }
  | .insecure => { settings with insecure := true }

/-- Apply options in order. -/
def applyAll (settings : EngineSettings) (options : List CheckOption) : EngineSettings :=
  options.foldl apply settings

/-- The settings that a list of options makes. -/
def ofOptions (options : List CheckOption) : EngineSettings :=
  initial.applyAll options

/-- The settings as developers see them, the token masked. -/
def summary (settings : EngineSettings) : String :=
  Text.summary "EngineSettings" [
    ("certification_project_id", quote settings.projectId),
    ("pyxis_api_token", settings.apiToken.summary),
    ("docker_config", quote settings.dockerConfig),
    ("pyxis_host", quote settings.host),
    ("platform", quote settings.platform),
    ("insecure", Text.summaryBool settings.insecure)]

end EngineSettings

/-- The options for a run. The project is given once more when there is a whole pair of
credentials, and an insecure connection comes last. -/
def optionsFor (config : RunConfiguration) : List CheckOption :=
  let project := CheckOption.project config.projectId config.apiToken
  [project, .dockerConfig config.dockerConfig, .host config.host, .platform config.platform] ++
    (if !config.apiToken.isEmpty && !config.projectId.isEmpty then [project] else []) ++
    (if config.insecure then [.insecure] else [])

/-- The configuration once its options are made: no submission over an insecure connection. -/
def withOptionsMade (config : RunConfiguration) : RunConfiguration :=
  { config with submit := config.submit && !config.insecure }

end ContainerCert.Check
