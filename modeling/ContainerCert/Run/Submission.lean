import ContainerCert.Pyxis.Client
import ContainerCert.Run.Machine

/-!
# Submitting results

A run that submits asks the service for the project, sends it the results that stand in the
artifacts directory, and sends the log file after them, if it can be read. A run that does not
submit may say why.
-/

namespace ContainerCert.Run

open Check (Scope)
open Files
open Pyxis (Client ClientError Upload)

/-- Why a submission fails. -/
inductive SubmitError where
  | noArtifactsWriter
  | read (path : String) (cause : IoError)
  | parse (path : String) (cause : Data.Fault)
  | service (cause : ClientError)
  deriving DecidableEq, Repr

/-- The text of what is wrong with a document. -/
def faultText : Data.Fault → String
  | .malformed => "<syntax>"
  | .mismatch cause => cause.message

/-- The message of a submission error. -/
def SubmitError.message : SubmitError → String
  | .noArtifactsWriter => "no artifacts writer bound to the run context"
  | .read path cause => "could not read " ++ path ++ ": " ++ cause.message
  | .parse path cause => path ++ " is not a valid results document: " ++ faultText cause
  | .service cause => cause.message

/-- Something that takes the results of a run. -/
structure Submitter (σ : Type) where
  /-- Whether anything is sent anywhere. -/
  submits : Bool
  submit : Scope σ → Action σ SubmitError Unit

/-- The file name of results with an extension. -/
def resultsName (extension : String) : String :=
  "results." ++ extension

/-- The text of a document's bytes. Where they are no text, what comes before the first broken
character is kept, and a NUL character, which no document may hold, marks the place. -/
def documentText (content : ByteArray) : String :=
  match String.fromUTF8? content with
  | some text => text
  | none =>
    let longest := (List.range (content.size + 1)).reverse.findSome? fun size =>
      String.fromUTF8? (content.extract 0 size)
    longest.getD "" ++ "\x00"

/-- Read the results that stand in an artifacts directory. -/
def readResults (artifacts : String) (files : FileTree) : Except SubmitError Report.Response := do
  let path := Path.join artifacts (resultsName "json")
  let content ← (files.read path).mapError (.read path)
  (Json.decodeText Report.Response.decode (documentText content)).mapError (.parse path)

/-- The name under which a log file is sent. -/
def logName (logFile : String) : String :=
  (Path.fileName? logFile).getD "preflight.log"

/-- A submission to the service: the client, and the files that go with the results. -/
structure ServiceSubmission where
  client : Client
  dockerConfig : String
  logFile : String
  deriving DecidableEq

namespace ServiceSubmission

/-- Send the log file, if it can be read. -/
def sendLog (submission : ServiceSubmission) : Action Machine SubmitError Unit := do
  let machine ← get
  match machine.files.read submission.logFile with
  | .error _ => pure ()
  | .ok content =>
    let file : Upload :=
      ⟨submission.client.projectId, logName submission.logFile, "text/plain", content⟩
    Machine.onNetwork ((submission.client.upload file).mapError .service)

/-- Submit the results that stand in an artifacts directory. -/
def run (submission : ServiceSubmission) (artifacts : String) :
    Action Machine SubmitError Unit := do
  let _ ← Machine.onNetwork (submission.client.getProject.mapError .service)
  let machine ← get
  let response ← Action.ofExcept (readResults artifacts machine.files)
  Machine.onNetwork ((submission.client.submitResults response).mapError .service)
  submission.sendLog

end ServiceSubmission

/-- What becomes of the results of a run. -/
inductive Submission where
  /-- Nothing is sent, and the reason that is told, if any. -/
  | nothing (told : Option String)
  | service (submission : ServiceSubmission)
  deriving DecidableEq

namespace Submission

/-- The client that a configuration makes, if it has both a project and a token. -/
def clientFor (config : Config.RunConfiguration) : Option Client :=
  if config.projectId.isEmpty || config.apiToken.isEmpty then none
  else some ⟨config.host, config.apiToken, config.projectId⟩

/-- What becomes of the results for a configuration and its client. -/
def resolve (client : Option Client) (config : Config.RunConfiguration) : Submission :=
  match client with
  | some client =>
    if config.submit then .service ⟨client, config.dockerConfig, config.logFile⟩
    else .nothing (some "set the --submit flag to submit")
  | none =>
    .nothing (if config.submit then
      some "certification project id and pyxis api token are required" else none)

/-- The reason that is told when nothing is sent. -/
def told : Submission → Option String
  | .nothing reason => reason
  | .service _ => none

/-- The submission as something that takes the results of a run. -/
def submitter : Submission → Submitter Machine
  | .nothing _ => ⟨false, fun _ => pure ()⟩
  | .service submission =>
    ⟨true, fun scope =>
      match scope.artifacts with
      | none => throw .noArtifactsWriter
      | some writer => submission.run writer.path⟩

end Submission
end ContainerCert.Run
