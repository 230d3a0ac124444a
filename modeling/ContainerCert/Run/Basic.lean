import ContainerCert.Run.Error

/-!
# One run

A run lets the engine check the image, formats the results, writes them to files and submits
them, in this order; the first step that fails ends it, and what was done before is kept. Nothing
is submitted before every document is written. The one who submits reads the JSON document, so a
run that submits writes it whatever format the results are shown in.
-/

namespace ContainerCert.Run

open Check (Engine Scope CheckError)
open Files
open Report (Format Formatter Results)

/-- How results are written to files: a file is opened, written and flushed. -/
structure ResultWriter (σ : Type) where
  openFile : String → Action σ IoError Unit
  write : String → ByteArray → Action σ IoError Unit
  flush : String → Action σ IoError Unit

/-- What a run does besides writing its results. -/
structure Extras where
  /-- Whether the results are also written as JUnit XML. -/
  junit : Bool
  submit : Bool
  deriving DecidableEq, Repr

/-- What a run that went through has made. -/
structure Outcome where
  output : ByteArray
  /-- Where the output stands. -/
  resultsPath : String
  passed : Bool

/-- Those who do the work of a run. -/
structure Collaborators (σ : Type) where
  engine : Engine σ
  formatter : Formatter
  writer : ResultWriter σ
  submitter : Submitter σ

variable {σ : Type}

/-- Write a document. -/
def persist (writer : ResultWriter σ) (path : String) (content : ByteArray) :
    Action σ RunError Unit :=
  Action.mapError (.persistence path) do
    writer.openFile path
    writer.write path content
    writer.flush path

/-- Let the engine work. An error it gives once the run is cancelled means that it was
cancelled. -/
def check (scope : Scope σ) (engine : Engine σ) : Action σ RunError Results := fun state =>
  match engine scope state with
  | (.ok results, state) => (.ok results, state)
  | (.error .cancelled, state) => (.error .cancelled, state)
  | (.error cause, state) =>
    let (cancelled, state) := scope.isCancelled state
    (.error (if cancelled then .cancelled else .checkExecution cause), state)

/-- The file name of results as JUnit XML beside results in another format. -/
def junitName : String := "results-junit.xml"

/-- Format results and write them to a file. -/
def writeAs (writer : ResultWriter σ) (formatter : Formatter) (path : String) (results : Results) :
    Action σ RunError ByteArray := do
  let content ← Action.ofExcept ((formatter.render results).mapError .formatter)
  persist writer path content
  return content

/-- Do a run. -/
def perform (scope : Scope σ) (work : Collaborators σ) (extras : Extras) :
    Action σ RunError Outcome := do
  let artifacts ← match scope.artifacts with
    | none => throw (.context "no artifacts writer bound")
    | some writer => pure writer.path
  let results ← check scope work.engine
  let resultsPath := Path.join artifacts (resultsName work.formatter.extension)
  let output ← writeAs work.writer work.formatter resultsPath results
  if extras.submit && work.formatter.extension != "json" then
    let _ ← writeAs work.writer Format.json.formatter
      (Path.join artifacts (resultsName "json")) results
  if extras.junit then
    let _ ← writeAs work.writer Format.junit.formatter (Path.join artifacts junitName) results
  if extras.submit then
    (work.submitter.submit scope).mapError .submission
  return ⟨output, resultsPath, results.passed⟩

/-- The writer of results into files, which makes the directories it needs. -/
def fileWriter : ResultWriter FileTree where
  openFile path := do
    FileTree.makeParent path
    FileTree.create path
  write path content := FileTree.write path content
  flush _ := pure ()

/-- The writer of results into the files of a machine. -/
def machineWriter : ResultWriter Machine where
  openFile path := Machine.onFiles (fileWriter.openFile path)
  write path content := Machine.onFiles (fileWriter.write path content)
  flush path := Machine.onFiles (fileWriter.flush path)

end ContainerCert.Run
