import ContainerCert.Artifacts
import ContainerCert.Check.Basic
import ContainerCert.Report.Results

/-!
# The check engine

The engine reads the image reference, writes it as an artifact, and evaluates the checks one
after another. Before anything else and before each check it asks whether the run is cancelled,
and stops if it is.
-/

namespace ContainerCert.Check

open Files (IoError)
open Report (Entry Groups Results)

/-- Why a run of checks gives no results. -/
inductive CheckError where
  | cancelled
  | invalidReference (image : String) (cause : Image.ReferenceError)
  | noArtifactsWriter
  | artifact (name : String) (cause : IoError)
  deriving DecidableEq, Repr

/-- The message of a check error. -/
def CheckError.message : CheckError → String
  | .cancelled => "cancelled"
  | .invalidReference image cause =>
    "invalid image reference " ++ Text.quote image ++ ": " ++ cause.message
  | .noArtifactsWriter => "no artifacts writer bound to the run context"
  | .artifact name cause => "could not write artifact " ++ name ++ ": " ++ cause.message

/-- What surrounds a run: how to ask whether it is cancelled, and where artifacts go, if
anywhere. -/
structure Scope (σ : Type) where
  isCancelled : StateM σ Bool
  artifacts : Option (ArtifactsWriter σ)

/-- A clock: the text of the present time, and milliseconds to measure spans with. -/
structure Clock (σ : Type) where
  timestamp : StateM σ String
  milliseconds : StateM σ Nat

/-- The name of the artifact that holds the image reference. -/
def referenceArtifact : String := "image-reference.json"

variable {σ : Type}

/-- The entry for what a check says. -/
def entryOf (check : Check σ) (elapsed : UInt64) (reason : String) : Entry :=
  ⟨check.name, check.description, check.help, elapsed, reason⟩

/-- Add what a check says to the lists. -/
def record (groups : Groups) (check : Check σ) (elapsed : UInt64) : Verdict → Groups
  | .pass => { groups with passed := groups.passed ++ [entryOf check elapsed ""] }
  | .fail reason => { groups with failed := groups.failed ++ [entryOf check elapsed reason] }
  | .error reason => { groups with errors := groups.errors ++ [entryOf check elapsed reason] }

/-- Evaluate a check and measure its time. -/
def evaluateTimed (clock : Clock σ) (target : Target) (check : Check σ) :
    StateM σ (Verdict × UInt64) := do
  let before ← clock.milliseconds
  let verdict ← check.evaluate target
  let after ← clock.milliseconds
  return (verdict, UInt64.ofNat (after - before))

/-- Stop if the run is cancelled. -/
def checkpoint (scope : Scope σ) : Action σ CheckError Unit := do
  if ← (scope.isCancelled : Action σ CheckError Bool) then throw .cancelled

/-- Evaluate checks in order, adding to lists. -/
def evaluateAll (clock : Clock σ) (scope : Scope σ) (target : Target) :
    List (Check σ) → Groups → Action σ CheckError Groups
  | [], groups => pure groups
  | check :: checks, groups => do
    checkpoint scope
    let (verdict, elapsed) ← (evaluateTimed clock target check : Action σ CheckError _)
    evaluateAll clock scope target checks (record groups check elapsed verdict)

/-- The results for the lists that the checks gave. -/
def resultsOf (image platform testedOn : String) (groups : Groups) : Results :=
  { Results.empty image platform with
    testedOn
    passed := groups.failed.isEmpty && groups.errors.isEmpty
    groups }

/-- Write the image reference as an artifact. -/
def writeReference (scope : Scope σ) (reference : Image.Reference) : Action σ CheckError Unit :=
  match scope.artifacts with
  | none => throw .noArtifactsWriter
  | some writer => do
    let content := reference.toJson.prettyText.toUTF8
    let _ ← (writer.write referenceArtifact content).mapError (.artifact referenceArtifact)

/-- Something that checks an image and gives results. -/
abbrev Engine (σ : Type) := Scope σ → Action σ CheckError Results

/-- The engine for one image with settings and checks. -/
def engine (clock : Clock σ) (image : String) (settings : EngineSettings)
    (checks : List (Check σ)) : Engine σ := fun scope => do
  checkpoint scope
  let reference ← Action.ofExcept ((Image.Reference.parse image).mapError (.invalidReference image))
  writeReference scope reference
  let testedOn ← (clock.timestamp : Action σ CheckError String)
  let groups ← evaluateAll clock scope ⟨reference, settings⟩ checks .none
  return resultsOf image settings.platform testedOn groups

end ContainerCert.Check
