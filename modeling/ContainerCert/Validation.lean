import ContainerCert.Action
import ContainerCert.Config.Flags
import ContainerCert.ProjectId

/-!
# Checking what the user asks for

Before anything runs, the arguments, the flags and the settings are checked together; the first
rule that fails is the verdict. A request to submit is noted as an override, so that it reaches
the run also where only the marker inside another flag's value makes it; and a project identifier
in the old spelling is replaced by the present one.
-/

namespace ContainerCert

open Config

/-- What a submission needs. -/
inductive Credential where
  | projectId
  | apiToken
  deriving DecidableEq, Repr

namespace Credential

/-- The credentials, in the order in which they are checked. -/
def all : List Credential :=
  [.projectId, .apiToken]

/-- The key that holds the credential. -/
def key : Credential → Key
  | .projectId => .projectId
  | .apiToken => .apiToken

/-- The flag that gives the credential. -/
def flag : Credential → String
  | .projectId => "certification-project-id"
  | .apiToken => "pyxis-api-token"

/-- How messages name the credential. -/
def name : Credential → String
  | .projectId => "certification project id"
  | .apiToken => "pyxis api token"

end Credential

/-- Why a request is refused. -/
inductive ValidationError where
  | positional (count : Nat)
  | exclusive (first second : String)
  | missing (credential : Credential)
  | blank (credential : Credential)
  | swallowed
  | malformedProjectId (id : String)
  | configuration (cause : ConfigurationError)
  deriving DecidableEq, Repr

/-- The message of a refusal. -/
def ValidationError.message : ValidationError → String
  | .positional count =>
    "a container image positional argument is required (got " ++ toString count ++ ")"
  | .exclusive first second => "--" ++ first ++ " and --" ++ second ++ " cannot be used together"
  | .missing credential => credential.name ++ " must be specified when --submit is present"
  | .blank credential => credential.name ++ " cannot be empty when --submit is present"
  | .swallowed =>
    "pyxis api token and certification project id are required when --submit is present"
  | .malformedProjectId id =>
    "certification project id: " ++ id ++
      " is improperly formatted, see help command for instructions on obtaining proper value"
  | .configuration cause => cause.message

/-- A request that passed the checks. -/
structure Accepted where
  image : String
  /-- Whether a submission is asked for, by the setting or by the marker. -/
  submit : Bool
  deriving DecidableEq, Repr

namespace Validation

/-- Whether a submission is asked for: by the setting, or by the marker inside a flag's value. -/
def submitRequested (flags : Flags) (settings : Settings) : Except ValidationError Bool :=
  match settings.getBool .submit with
  | .error cause => .error (.configuration cause)
  | .ok submit => .ok (submit || flags.asksToSubmit)

/-- Whether no source gives the credential, a typed flag included. -/
def isMissing (flags : Flags) (settings : Settings) (credential : Credential) : Bool :=
  !flags.changed credential.flag && !settings.isSet credential.key

/-- Whether the credential was typed and is empty. -/
def isBlank (flags : Flags) (settings : Settings) (credential : Credential) : Bool :=
  flags.changed credential.flag && (settings.getText credential.key).isEmpty

/-- Whether the credential looks like a flag, which the one before it took as its value. -/
def looksLikeFlag (settings : Settings) (credential : Credential) : Bool :=
  "--".toList.isPrefixOf (settings.getText credential.key).toList

/-- Check what a submission needs: first that nothing is missing, then that nothing typed is
empty, then that nothing is a flag that went astray. -/
def prerequisites (flags : Flags) (settings : Settings) : Except ValidationError Unit :=
  match Credential.all.find? (isMissing flags settings) with
  | some credential => .error (.missing credential)
  | none =>
    match Credential.all.find? (isBlank flags settings) with
    | some credential => .error (.blank credential)
    | none => if Credential.all.any (looksLikeFlag settings) then .error .swallowed else .ok ()

/-- Check that there is one image, and that a submission that is asked for has what it needs; then
note the request as an override. -/
def positional (args : List String) (flags : Flags) : Action Settings ValidationError Accepted := do
  let image ← match args with
    | [image] => pure image
    | _ => throw (.positional args.length)
  let settings ← get
  let submit ← Action.ofExcept (submitRequested flags settings)
  if submit then
    Action.ofExcept (prerequisites flags settings)
    set (settings.force .submit (.switch true))
  return ⟨image, submit⟩

/-- Check that submission and an insecure connection are not both asked for by flags. -/
def flagGroups (flags : Flags) : Except ValidationError Unit :=
  if flags.changed "submit" && flags.changed "insecure" then .error (.exclusive "submit" "insecure")
  else .ok ()

/-- Check the project identifier, and replace one in the old spelling by the present one. -/
def projectId : Action Settings ValidationError Unit := do
  let settings ← get
  let configured := settings.getText .projectId
  match ProjectId.normalize? configured with
  | none => throw (.malformedProjectId configured)
  | some present =>
    if present ≠ configured then set (settings.force .projectId (.text present))

/-- All checks, in order. -/
def validate (args : List String) (flags : Flags) : Action Settings ValidationError Accepted := do
  let accepted ← positional args flags
  Action.ofExcept (flagGroups flags)
  projectId
  return accepted

end Validation
end ContainerCert
