import ContainerCert.Config.File
import ContainerCert.Pyxis.Token

/-!
# Layered settings

Settings come from four sources: overrides made by the program itself, flags that were typed,
environment variables, and the configuration file. The first of these that gives a key decides
it, and a key that none gives has a value from the start. An environment variable that is empty
gives nothing.
-/

namespace ContainerCert.Config

/-- A source of settings. -/
inductive Source where
  | override
  | flag
  | environment
  | file
  deriving DecidableEq, Repr

namespace Source

/-- The sources, the one that decides first in front. -/
def all : List Source :=
  [.override, .flag, .environment, .file]

/-- The source as developers see it. -/
def label : Source → String
  | .override => "overrides"
  | .flag => "flags"
  | .environment => "env"
  | .file => "file"

theorem mem_all (source : Source) : source ∈ all := by
  cases source <;> decide

end Source

/-- The architecture that the program is built for. It is fixed by the build; this library stands
for the builds for x86-64. -/
def architecture : String := "x86_64"

/-- The name of an architecture among the platforms of images. -/
def platformOf : String → String
  | "x86_64" => "amd64"
  | "aarch64" => "arm64"
  | "powerpc64" => "ppc64le"
  | "x86" => "386"
  | other => other

/-- The platform of the machine the program runs on. -/
def hostPlatform : String :=
  platformOf architecture

/-- The value of a key that no source gives. -/
def Key.initial : Key → Value
  | .submit => .switch false
  | .insecure => .switch false
  | .apiToken => .text ""
  | .host => .text ""
  | .environment => .text "prod"
  | .projectId => .text ""
  | .platform => .text hostPlatform
  | .dockerConfig => .text ""
  | .artifacts => .text "artifacts"
  | .logFile => .text "preflight.log"
  | .logLevel => .text "info"
  | .junit => .switch false
  | .responseFormat => .text "json"

/-- What every source gives for every key. -/
structure Settings where
  given : Source → Key → Option Value

namespace Settings

/-- Settings no source has given anything to. -/
def fresh : Settings :=
  ⟨fun _ _ => none⟩

/-- Let a source give a value for a key. -/
def put (settings : Settings) (source : Source) (key : Key) (value : Value) : Settings :=
  ⟨fun s k => if s = source ∧ k = key then some value else settings.given s k⟩

/-- Force a value, whatever the other sources give. -/
def force (settings : Settings) (key : Key) (value : Value) : Settings :=
  settings.put .override key value

/-- Note a flag that was typed. -/
def putFlag (settings : Settings) (key : Key) (value : Value) : Settings :=
  settings.put .flag key value

/-- What an environment gives for a key. -/
def fromEnvironment (lookup : String → Option String) (key : Key) : Option Value :=
  match lookup key.environmentVariable with
  | none => none
  | some value => if value.isEmpty then none else some (.text value)

/-- Read the environment variables of all keys. -/
def loadEnvironment (settings : Settings) (lookup : String → Option String) : Settings :=
  Key.all.foldl (fun settings key =>
    match fromEnvironment lookup key with
    | some value => settings.put .environment key value
    | none => settings) settings

/-- Read a configuration file. -/
def loadFile (settings : Settings) (file : File) : Settings :=
  file.entries.foldl (fun settings (key, value) => settings.put .file key value) settings

/-- The source that decides a key; none when no source gives it. -/
def source? (settings : Settings) (key : Key) : Option Source :=
  Source.all.find? fun source => (settings.given source key).isSome

/-- Whether any source gives the key. -/
def isSet (settings : Settings) (key : Key) : Bool :=
  (settings.source? key).isSome

/-- The value of a key. -/
def get (settings : Settings) (key : Key) : Value :=
  (Source.all.findSome? fun source => settings.given source key).getD key.initial

/-- The value of a key as a text. -/
def getText (settings : Settings) (key : Key) : String :=
  (settings.get key).asText

end Settings

/-- Why settings do not make a configuration. -/
inductive ConfigurationError where
  | notABool (key : Key) (value : String)
  | empty (key : Key)
  deriving DecidableEq, Repr

/-- The message of a configuration error. -/
def ConfigurationError.message : ConfigurationError → String
  | .notABool key value =>
    "invalid configuration: " ++ key.name ++ " must be a boolean, got " ++ Text.quote value
  | .empty key => "invalid configuration: " ++ key.name ++ " must not be empty"

namespace Settings

/-- The value of a key as a truth value. -/
def getBool (settings : Settings) (key : Key) : Except ConfigurationError Bool :=
  match settings.get key with
  | .switch on => .ok on
  | .text content =>
    match Value.boolOfText? content with
    | some on => .ok on
    | none => .error (.notABool key content)

/-- The values of a layer as developers see them, the token masked. -/
def layerSummary (given : Key → Option Value) : String :=
  Text.summaryMap (Key.all.filterMap fun key => (given key).map fun value =>
    (key.label, if key = .apiToken then Pyxis.Token.mask else value.summary))

/-- The settings as developers see them, with every token masked. -/
def summary (settings : Settings) : String :=
  Text.summary "Settings" (Source.all.map (fun source =>
    (source.label, layerSummary (settings.given source))) ++
    [("defaults", layerSummary (fun key => some key.initial))])

end Settings
end ContainerCert.Config
