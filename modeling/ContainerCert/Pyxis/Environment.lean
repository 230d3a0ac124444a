import ContainerCert.Data.Record
import ContainerCert.Json.Basic

/-!
# The instances of the certification service

The service runs in four environments, each with a host of its own. A host that is given directly
takes the place of the environment's; the name of an unknown environment means production.
-/

namespace ContainerCert.Pyxis

open Data (Tree Fault Mismatch Decoder)

/-- An environment of the service. -/
inductive Environment where
  | production
  | acceptance
  | quality
  | staging
  deriving DecidableEq, Repr

namespace Environment

/-- The environments, in the order in which messages list them. -/
def all : List Environment :=
  [.production, .acceptance, .quality, .staging]

/-- The name users give. -/
def name : Environment → String
  | .production => "prod"
  | .acceptance => "uat"
  | .quality => "qa"
  | .staging => "stage"

/-- The environment of a name. -/
def ofName? (name : String) : Option Environment :=
  all.find? (·.name == name)

/-- The host and path of the service. -/
def host : Environment → String
  | .production => "catalog.redhat.com/api/containers"
  | .acceptance => "catalog.uat.redhat.com/api/containers"
  | .quality => "catalog.qa.redhat.com/api/containers"
  | .staging => "catalog.stage.redhat.com/api/containers"

theorem ofName?_name (environment : Environment) : ofName? environment.name = some environment := by
  cases environment <;> decide

/-- The environment written as JSON. -/
def toJson (environment : Environment) : Json :=
  .text environment.name

/-- The fault of a name that no environment has. -/
def unknown (name : String) : Fault :=
  .mismatch (.unknownVariant name (all.map Environment.name))

/-- The environment of a name in a document. -/
def ofText (name : String) : Except Fault Environment :=
  match ofName? name with
  | some environment => .ok environment
  | none => .error (unknown name)

/-- What has to stand beside an environment's name when the name is a key. -/
def unit : Decoder Unit
  | .null => .ok ()
  | tree => .error (tree.reject "unit")

/-- Take an environment out of a document: its name, or its name as the only key of a map with
nothing beside it. -/
def decode : Decoder Environment
  | .text name => ofText name
  | .map ((name, value) :: entries) stray => do
    let environment ← ofText name
    unit value
    if entries.isEmpty && stray.isNone then return environment else throw .malformed
  | _ => .error .malformed

end Environment

/-- The host to talk to: one that is given directly, else that of the named environment, else
that of production. -/
def hostFor (environment given : String) : String :=
  if given.isEmpty then ((Environment.ofName? environment).getD .production).host else given

end ContainerCert.Pyxis
