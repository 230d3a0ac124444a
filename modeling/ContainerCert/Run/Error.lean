import ContainerCert.Report.Format
import ContainerCert.Run.Submission

/-!
# Why a run stops

The errors of a run once its arguments have been accepted, one kind for each of its steps.
-/

namespace ContainerCert.Run

open Files (IoError)

/-- Why a run stops. -/
inductive RunError where
  | context (reason : String)
  | configuration (cause : Config.ConfigurationError)
  | artifacts (path : String) (cause : IoError)
  | formatter (cause : Report.FormatError)
  | checkExecution (cause : Check.CheckError)
  | cancelled
  | persistence (path : String) (cause : IoError)
  | submission (cause : SubmitError)
  deriving DecidableEq, Repr

/-- The message of a run error. -/
def RunError.message : RunError → String
  | .context reason => "invalid execution context: " ++ reason
  | .configuration cause => cause.message
  | .artifacts path cause =>
    "could not prepare artifacts directory " ++ path ++ ": " ++ cause.message
  | .formatter cause => cause.message
  | .checkExecution cause => "check execution failed: " ++ cause.message
  | .cancelled => "check execution was cancelled"
  | .persistence path cause => "could not write results to " ++ path ++ ": " ++ cause.message
  | .submission cause => "could not submit results: " ++ cause.message

end ContainerCert.Run
