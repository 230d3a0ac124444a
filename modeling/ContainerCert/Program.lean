import ContainerCert.CommandLine.Parse
import ContainerCert.Config.Includes
import ContainerCert.LogFilter
import ContainerCert.Run.Container
import ContainerCert.Validation

/-!
# The program

One invocation of the program, from the words of its command line to its ending: read the command
line, load the configuration, take the settings together, check what is asked for, open the log
file, and run. Nothing is written before the arguments have been accepted.
-/

namespace ContainerCert.Program

open CommandLine (UsageError)
open Config (LoadError Reason Settings)
open Files
open Run

/-- What an invocation gets from outside: its arguments and its environment. -/
structure Invocation where
  arguments : List String
  environment : String → Option String

/-- How an invocation ends. -/
inductive Ending where
  | notUnderstood (error : UsageError)
  | notLoaded (error : LoadError)
  | refused (error : ValidationError)
  | stopped (error : RunError)
  /-- The checks ran, and their results are the output. -/
  | finished (output : ByteArray)

namespace Ending

/-- The exit code: zero for a run that went through, also where checks failed. An overflow stops
the program with a code of its own. -/
def exitCode : Ending → Nat
  | .notUnderstood error => error.exitCode
  | .notLoaded _ => 1
  | .refused _ => 2
  | .stopped (.formatter .overflow) => 101
  | .stopped _ => 1
  | .finished _ => 0

/-- What is written to standard output. -/
def output : Ending → ByteArray
  | .finished output => output
  | _ => .empty

/-- The line that shows how the command is used. -/
def usage : String := "Usage: preflight check container [OPTIONS] [IMAGE]...\n"

/-- What a refused request is answered on standard error. -/
def refusal : Ending → String
  | .refused error => "Error: " ++ error.message ++ "\n\n" ++ usage
  | _ => ""

/-- What an invocation that ran into an error was doing. -/
def runFailure : String := "preflight check failed"

/-- The text of one reason. -/
def reasonText : Reason → String
  | .text message => message
  | .document fault => faultText fault

/-- Why an invocation failed, step by step, the widest first. -/
def reasons : Ending → List String
  | .notLoaded error => error.reasons.map reasonText
  | .stopped error => [runFailure, error.message]
  | _ => []

end Ending

/-- The settings of an invocation before its arguments are checked: the configuration file, then
the environment, then the flags that were typed. -/
def settingsFor (file : Config.File) (environment : String → Option String)
    (flags : Config.Flags) : Settings :=
  flags.apply ((Settings.fresh.loadFile file).loadEnvironment environment)

/-- Open a log file, which may need directories. -/
def openLog (path : String) : Action FileTree IoError Unit := do
  FileTree.makeParent path
  FileTree.openAtEnd path

/-- Set up the log file; one that cannot be opened is done without. What a run writes into its log
while it goes on is left out of this library, so the file holds what it held before. -/
def attachLog (path : String) (machine : Machine) : LogContext × Machine :=
  if path.isEmpty then (⟨none⟩, machine)
  else
    let (result, machine) := Machine.onFiles (openLog path) machine
    (⟨if result.isOk then some path else none⟩, machine)

/-- Run what has been accepted. -/
def runAccepted (accepted : Accepted) (settings : Settings) (machine : Machine) :
    Ending × Machine :=
  let (logger, machine) := attachLog (settings.getText .logFile) machine
  let (signal, signals) := machine.signals.issue
  let context : Context Machine := { Context.fresh signal with logger := some logger }
  match checkContainer context accepted.image settings { machine with signals } with
  | (.ok outcome, machine) => (.finished outcome.output, machine)
  | (.error error, machine) => (.stopped error, machine)

/-- What an invocation asks for, before that is checked. -/
structure Launch where
  images : List String
  flags : Config.Flags
  settings : Settings

namespace Launch

/-- The directives of the log's filter that are passed over. -/
def ignored (launch : Launch) : List LogFilter.Ignored :=
  LogFilter.ignored (launch.settings.getText .logLevel)

/-- Check what is asked for and run it. -/
def run (launch : Launch) (machine : Machine) : Ending × Machine :=
  match Validation.validate launch.images launch.flags launch.settings with
  | (.error error, _) => (.refused error, machine)
  | (.ok accepted, settings) => runAccepted accepted settings machine

end Launch

/-- Read the command line and the configuration of an invocation. -/
def launch (invocation : Invocation) (files : FileTree) : Except Ending Launch :=
  match CommandLine.parse invocation.arguments with
  | .error error => .error (.notUnderstood error)
  | .ok line =>
    match Config.File.load files invocation.environment line.config with
    | .error error => .error (.notLoaded error)
    | .ok file => .ok ⟨line.images, line.flags, settingsFor file invocation.environment line.flags⟩

/-- Run an invocation. -/
def run (invocation : Invocation) (machine : Machine) : Ending × Machine :=
  match launch invocation machine.files with
  | .error ending => (ending, machine)
  | .ok launch => launch.run machine

/-- What is written to standard error before anything is checked. -/
def warnings (invocation : Invocation) (files : FileTree) : String :=
  match launch invocation files with
  | .error _ => ""
  | .ok launch => String.join (launch.ignored.map fun ignored => ignored.message ++ "\n")

end ContainerCert.Program
