import ContainerCert.Config.Key
import ContainerCert.Config.Value
import ContainerCert.Data.Record
import ContainerCert.Json.Basic

/-!
# Configuration files

What one configuration file says: for every key a value or nothing, and the other files it
includes. A file that is laid over another decides every key it sets; the other one decides the
rest.
-/

namespace ContainerCert.Config

open Data (Decoder Record RecordField)

/-- What a configuration file says. -/
structure File where
  includes : List String
  submit : Option Bool
  insecure : Option Bool
  apiToken : Option String
  host : Option String
  environment : Option String
  projectId : Option String
  platform : Option String
  dockerConfig : Option String
  artifacts : Option String
  logFile : Option String
  logLevel : Option String
  junit : Option Bool
  responseFormat : Option String
  deriving DecidableEq, Repr

namespace File

/-- The file that says nothing. -/
def empty : File :=
  ⟨[], none, none, none, none, none, none, none, none, none, none, none, none, none⟩

/-- What the file says about a key. -/
def value? (file : File) : Key → Option Value
  | .submit => file.submit.map .switch
  | .insecure => file.insecure.map .switch
  | .apiToken => file.apiToken.map .text
  | .host => file.host.map .text
  | .environment => file.environment.map .text
  | .projectId => file.projectId.map .text
  | .platform => file.platform.map .text
  | .dockerConfig => file.dockerConfig.map .text
  | .artifacts => file.artifacts.map .text
  | .logFile => file.logFile.map .text
  | .logLevel => file.logLevel.map .text
  | .junit => file.junit.map .switch
  | .responseFormat => file.responseFormat.map .text

/-- The keys in the order in which a file's entries are listed: truth values first. -/
def entryOrder : List Key :=
  [.submit, .insecure, .junit, .apiToken, .host, .environment, .projectId, .platform,
    .dockerConfig, .artifacts, .logFile, .logLevel, .responseFormat]

/-- The keys that the file sets, with their values. -/
def entries (file : File) : List (Key × Value) :=
  entryOrder.filterMap fun key => (file.value? key).map fun value => (key, value)

/-- One file laid over another. The result includes nothing. -/
def laidOver (upper lower : File) : File where
  includes := []
  submit := upper.submit <|> lower.submit
  insecure := upper.insecure <|> lower.insecure
  apiToken := upper.apiToken <|> lower.apiToken
  host := upper.host <|> lower.host
  environment := upper.environment <|> lower.environment
  projectId := upper.projectId <|> lower.projectId
  platform := upper.platform <|> lower.platform
  dockerConfig := upper.dockerConfig <|> lower.dockerConfig
  artifacts := upper.artifacts <|> lower.artifacts
  logFile := upper.logFile <|> lower.logFile
  logLevel := upper.logLevel <|> lower.logLevel
  junit := upper.junit <|> lower.junit
  responseFormat := upper.responseFormat <|> lower.responseFormat

/-- A truth value in a document, or null for none. -/
def switchField (key : Key) (put : Option Bool → File → File) : RecordField File :=
  .may key.name (Decoder.optional Decoder.boolean) put

/-- A text in a document, or null for none. -/
def textField (key : Key) (put : Option String → File → File) : RecordField File :=
  .may key.name (Decoder.optional Decoder.text) put

/-- The fields of a configuration file in a document. -/
def record : Record File where
  name := "ConfigFile"
  initial := empty
  closed := true
  fields := [
    .may "includes" (Decoder.list Decoder.text) fun v file => { file with includes := v },
    switchField .submit fun v file => { file with submit := v },
    switchField .insecure fun v file => { file with insecure := v },
    textField .apiToken fun v file => { file with apiToken := v },
    textField .host fun v file => { file with host := v },
    textField .environment fun v file => { file with environment := v },
    textField .projectId fun v file => { file with projectId := v },
    textField .platform fun v file => { file with platform := v },
    textField .dockerConfig fun v file => { file with dockerConfig := v },
    textField .artifacts fun v file => { file with artifacts := v },
    textField .logFile fun v file => { file with logFile := v },
    textField .logLevel fun v file => { file with logLevel := v },
    switchField .junit fun v file => { file with junit := v },
    textField .responseFormat fun v file => { file with responseFormat := v }]

/-- Take a configuration file out of a document. -/
def decode : Decoder File :=
  record.decode

/-- A value as JSON. -/
def valueJson : Value → Json
  | .switch on => .boolean on
  | .text content => .text content

/-- The file as JSON: the files it includes, if any, and the keys it sets. -/
def toJson (file : File) : Json :=
  let includes :=
    if file.includes.isEmpty then [] else [("includes", .array (file.includes.map .text))]
  .object (includes ++ Key.all.filterMap fun key =>
    (file.value? key).map fun value => (key.name, valueJson value))

end File
end ContainerCert.Config
