/-!
# Configuration keys

Every setting of the program has a key. A key has a name in configuration files, an environment
variable, and, where users may give it on the command line, the name of a flag.
-/

namespace ContainerCert.Config

/-- A setting of the program. -/
inductive Key where
  | submit
  | insecure
  | apiToken
  | host
  | environment
  | projectId
  | platform
  | dockerConfig
  | artifacts
  | logFile
  | logLevel
  | junit
  | responseFormat
  deriving DecidableEq, Repr

namespace Key

/-- All keys, in the order in which they are listed. -/
def all : List Key :=
  [.submit, .insecure, .apiToken, .host, .environment, .projectId, .platform, .dockerConfig,
    .artifacts, .logFile, .logLevel, .junit, .responseFormat]

/-- The name in configuration files and messages. -/
def name : Key → String
  | .submit => "submit"
  | .insecure => "insecure"
  | .apiToken => "pyxis_api_token"
  | .host => "pyxis_host"
  | .environment => "pyxis_env"
  | .projectId => "certification_project_id"
  | .platform => "platform"
  | .dockerConfig => "docker_config"
  | .artifacts => "artifacts"
  | .logFile => "logfile"
  | .logLevel => "loglevel"
  | .junit => "junit"
  | .responseFormat => "response_format"

/-- The name developers see. -/
def label : Key → String
  | .submit => "Submit"
  | .insecure => "Insecure"
  | .apiToken => "PyxisApiToken"
  | .host => "PyxisHost"
  | .environment => "PyxisEnv"
  | .projectId => "CertificationProjectId"
  | .platform => "Platform"
  | .dockerConfig => "DockerConfig"
  | .artifacts => "Artifacts"
  | .logFile => "LogFile"
  | .logLevel => "LogLevel"
  | .junit => "Junit"
  | .responseFormat => "ResponseFormat"

/-- The flag of the command line, for the keys that have one. -/
def flag? : Key → Option String
  | .submit => some "submit"
  | .insecure => some "insecure"
  | .apiToken => some "pyxis-api-token"
  | .host => some "pyxis-host"
  | .environment => some "pyxis-env"
  | .projectId => some "certification-project-id"
  | .platform => some "platform"
  | .dockerConfig | .artifacts | .logFile | .logLevel | .junit | .responseFormat => none

/-- What the names of all environment variables start with. -/
def variableStem : String := "PFLT_"

/-- The environment variable: the name in capitals after the common stem, but the variable of the
Docker configuration has no underscore. -/
def environmentVariable : Key → String
  | .dockerConfig => variableStem ++ "DOCKERCONFIG"
  | key => variableStem ++ key.name.map Char.toUpper

/-- The key of a name. -/
def ofName? (name : String) : Option Key :=
  all.find? (·.name == name)

/-- The key of a flag. -/
def ofFlag? (flag : String) : Option Key :=
  all.find? (·.flag? == some flag)

/-- Whether the flag of the key stands for itself and takes no value. -/
def isSwitch : Key → Bool
  | .submit | .insecure => true
  | _ => false

theorem mem_all (key : Key) : key ∈ all := by
  cases key <;> decide

end Key
end ContainerCert.Config
