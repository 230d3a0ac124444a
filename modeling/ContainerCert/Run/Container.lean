import ContainerCert.Run.Basic

/-!
# Checking a container image

From settings that have been accepted to a run: logging must be set up, the configuration must
render, the artifacts directory is made, the format must be known, and then the engine, its
options and the submission are put together. The first of these that fails is the outcome.
-/

namespace ContainerCert.Run

open Check (EngineSettings)
open Config (RunConfiguration Settings)
open Report (Format)

/-- A run that is ready to start. -/
structure Prepared where
  context : Context Machine
  /-- The configuration, once the options of the engine are made. -/
  config : RunConfiguration
  artifacts : String
  image : String
  engine : EngineSettings
  format : Format
  submission : Submission

namespace Prepared

/-- What the run does besides writing its results. -/
def extras (prepared : Prepared) : Extras :=
  ⟨prepared.config.junit, prepared.config.submit⟩

/-- Those who do the work of the run, with the given one to take its results. -/
def collaborators (prepared : Prepared) (submitter : Submitter Machine) :
    Collaborators Machine where
  engine := Check.engine Machine.clock prepared.image prepared.engine Check.builtin
  formatter := prepared.format.formatter
  writer := machineWriter
  submitter := submitter

/-- Do the run, with the given one to take its results. -/
def performWith (prepared : Prepared) (submitter : Submitter Machine) :
    Action Machine RunError Outcome :=
  perform (Machine.scope prepared.context) (prepared.collaborators submitter) prepared.extras

end Prepared

/-- Make the run for an image ready. -/
def prepare (context : Context Machine) (image : String) (settings : Settings) :
    Action Machine RunError Prepared := do
  if context.logger.isNone then throw (.context "invalid logging configuration")
  let config ← Action.ofExcept ((RunConfiguration.ofSettings settings).mapError .configuration)
  let artifacts ← Machine.onFiles
    ((Artifacts.makeDirectory config.artifacts).mapError (.artifacts config.artifacts))
  let format ← Action.ofExcept ((Format.ofName config.responseFormat).mapError .formatter)
  let options := Check.optionsFor config
  let config := Check.withOptionsMade config
  return {
    context := context.withArtifacts (Machine.directoryWriter artifacts)
    config
    artifacts
    image
    engine := EngineSettings.ofOptions options
    format
    submission := Submission.resolve (Submission.clientFor config) config }

/-- Check a container image. -/
def checkContainer (context : Context Machine) (image : String) (settings : Settings) :
    Action Machine RunError Outcome := do
  let prepared ← prepare context image settings
  prepared.performWith prepared.submission.submitter

end ContainerCert.Run
