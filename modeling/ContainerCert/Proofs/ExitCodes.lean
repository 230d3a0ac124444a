import ContainerCert.Program
import ContainerCert.Proofs.RunFiles
import Mathlib.Data.List.Basic

/-!
# How invocations end

An invocation goes through its stages until one of them ends it: the command line is read, the
configuration is loaded, the request is checked, and then the image is. The exit code tells which
stage that was. Only what has been accepted is run, and before that the machine is left alone.
-/

namespace ContainerCert.Program

open Config (LoadError)
open Run

/-- The context that an accepted request runs in, and the machine with its log file set up. -/
def started (settings : Config.Settings) (machine : Machine) : Context Machine × Machine :=
  let (logger, machine) := attachLog (settings.getText .logFile) machine
  let (signal, signals) := machine.signals.issue
  ({ Context.fresh signal with logger := some logger }, { machine with signals })

/-- What checking the image of an accepted request gives, and the machine it leaves. -/
def checked (accepted : Accepted) (settings : Config.Settings) (machine : Machine) :
    Except RunError Outcome × Machine :=
  checkContainer (started settings machine).1 accepted.image settings (started settings machine).2

/-- The configuration of a command line is loaded, with this result. -/
def Loads (invocation : Invocation) (machine : Machine) (line : CommandLine)
    (result : Except LoadError Config.File) : Prop :=
  Config.File.load machine.files invocation.environment line.config = result

/-- What a command line asks for, with a configuration file, gets this verdict and these
settings. -/
def Judges (invocation : Invocation) (line : CommandLine) (file : Config.File)
    (verdict : Except ValidationError Accepted) (settings : Config.Settings) : Prop :=
  Validation.validate line.images line.flags (settingsFor file invocation.environment line.flags) =
    (verdict, settings)

/-- The course of an invocation: its ending, and the machine that it leaves. -/
inductive Course (invocation : Invocation) (machine : Machine) : Ending → Machine → Prop
  | notUnderstood {error} (hline : CommandLine.parse invocation.arguments = .error error) :
      Course invocation machine (.notUnderstood error) machine
  | notLoaded {line error} (hline : CommandLine.parse invocation.arguments = .ok line)
      (hfile : Loads invocation machine line (.error error)) :
      Course invocation machine (.notLoaded error) machine
  | refused {line file error settings}
      (hline : CommandLine.parse invocation.arguments = .ok line)
      (hfile : Loads invocation machine line (.ok file))
      (hverdict : Judges invocation line file (.error error) settings) :
      Course invocation machine (.refused error) machine
  | stopped {line file accepted settings error after}
      (hline : CommandLine.parse invocation.arguments = .ok line)
      (hfile : Loads invocation machine line (.ok file))
      (hverdict : Judges invocation line file (.ok accepted) settings)
      (hchecked : checked accepted settings machine = (.error error, after)) :
      Course invocation machine (.stopped error) after
  | finished {line file accepted settings outcome after}
      (hline : CommandLine.parse invocation.arguments = .ok line)
      (hfile : Loads invocation machine line (.ok file))
      (hverdict : Judges invocation line file (.ok accepted) settings)
      (hchecked : checked accepted settings machine = (.ok outcome, after)) :
      Course invocation machine (.finished outcome.output) after

variable {invocation : Invocation} {machine after : Machine} {ending : Ending}

theorem runAccepted_eq (accepted : Accepted) (settings : Config.Settings) (machine : Machine) :
    runAccepted accepted settings machine = match checked accepted settings machine with
      | (.ok outcome, after) => (.finished outcome.output, after)
      | (.error error, after) => (.stopped error, after) := rfl

/-- An invocation takes the course that its stages lay down. -/
theorem course_of_run (invocation : Invocation) (machine : Machine) :
    Course invocation machine (run invocation machine).1 (run invocation machine).2 := by
  unfold run launch
  cases hline : CommandLine.parse invocation.arguments with
  | error error => exact .notUnderstood hline
  | ok line =>
    simp only
    cases hfile : Config.File.load machine.files invocation.environment line.config with
    | error error => exact .notLoaded hline hfile
    | ok file =>
      simp only [Launch.run]
      rcases hverdict : Validation.validate line.images line.flags
        (settingsFor file invocation.environment line.flags) with ⟨error | accepted, settings⟩
      · exact .refused hline hfile hverdict
      · change Course invocation machine (runAccepted accepted settings machine).1
          (runAccepted accepted settings machine).2
        rw [runAccepted_eq]
        rcases hchecked : checked accepted settings machine with ⟨error | outcome, after⟩
        · exact .stopped hline hfile hverdict hchecked
        · exact .finished hline hfile hverdict hchecked

/-- The exit code of an accepted request that stops, which is never for an overflow. -/
theorem exitCode_of_checked {accepted : Accepted} {settings : Config.Settings} {error : RunError}
    (h : checked accepted settings machine = (.error error, after)) :
    (Ending.stopped error).exitCode = 1 := by
  cases error with
  | formatter cause =>
    cases cause with
    | overflow => exact absurd rfl (checkContainer_ne_overflow h)
    | _ => rfl
  | _ => rfl

/-- Only an accepted request does something to the machine. -/
theorem Course.idle (h : Course invocation machine ending after)
    (hending : ending.exitCode = 2 ∨ ∃ error, ending = .notLoaded error) : after = machine := by
  cases h with
  | notUnderstood | notLoaded | refused => rfl
  | stopped _ _ _ hchecked => simp [exitCode_of_checked hchecked] at hending
  | finished => simp [Ending.exitCode] at hending

/-- An invocation that ends with exit code 2, or because its configuration could not be loaded,
leaves the files, the network and all else on the machine as they were. Where the command line is
understood, the code is 2 exactly when the configuration was loaded and the request refused; 1
exactly when it could not be loaded, or when checking the image did not come to an end; and 0
exactly when that did, whatever the checks say of the image. -/
theorem exitCode_of_stages (invocation : Invocation) (machine : Machine) :
    ((run invocation machine).1.exitCode = 2 ∨
        (∃ error, (run invocation machine).1 = .notLoaded error) →
      (run invocation machine).2 = machine) ∧
    ∀ line, CommandLine.parse invocation.arguments = .ok line →
      ((run invocation machine).1.exitCode = 2 ↔
        ∃ file, Loads invocation machine line (.ok file) ∧
          ∃ error settings, Judges invocation line file (.error error) settings) ∧
      ((run invocation machine).1.exitCode = 1 ↔
        (∃ error, Loads invocation machine line (.error error)) ∨
          ∃ file, Loads invocation machine line (.ok file) ∧
            ∃ accepted settings, Judges invocation line file (.ok accepted) settings ∧
              ∃ error after, checked accepted settings machine = (.error error, after)) ∧
      ((run invocation machine).1.exitCode = 0 ↔
        ∃ file, Loads invocation machine line (.ok file) ∧
          ∃ accepted settings, Judges invocation line file (.ok accepted) settings ∧
            ∃ outcome after, checked accepted settings machine = (.ok outcome, after)) := by
  have hcourse := course_of_run invocation machine
  refine ⟨hcourse.idle, fun line hparse => ?_⟩
  generalize (run invocation machine).1 = ending at hcourse ⊢
  generalize (run invocation machine).2 = after at hcourse
  simp only [Loads, Judges]
  -- Each course fixes what the stages gave up to its ending, which leaves one of the codes.
  cases hcourse with
  | notUnderstood hline => simp [hline] at hparse
  | notLoaded hline hfile =>
    obtain rfl := Except.ok.inj (hline.symm.trans hparse)
    simp only [Loads] at hfile
    simp [hfile, Ending.exitCode]
  | refused hline hfile hverdict =>
    obtain rfl := Except.ok.inj (hline.symm.trans hparse)
    simp only [Loads, Judges] at hfile hverdict
    simp [hfile, hverdict, Ending.exitCode]
  | stopped hline hfile hverdict hchecked =>
    obtain rfl := Except.ok.inj (hline.symm.trans hparse)
    simp only [Loads, Judges] at hfile hverdict
    have hcode := exitCode_of_checked hchecked
    refine ⟨?_, iff_of_true hcode (.inr ⟨_, hfile, _, _, hverdict, _, _, hchecked⟩), ?_⟩
    · simp [hfile, hverdict, hcode]
    · simp [hfile, hverdict, hchecked, hcode]
  | finished hline hfile hverdict hchecked =>
    obtain rfl := Except.ok.inj (hline.symm.trans hparse)
    simp only [Loads, Judges] at hfile hverdict
    refine ⟨?_, ?_, iff_of_true rfl ⟨_, hfile, _, _, hverdict, _, _, hchecked⟩⟩
    · simp [hfile, hverdict, Ending.exitCode]
    · simp [hfile, hverdict, hchecked, Ending.exitCode]

/-- A machine with a working directory that has the artifacts of an earlier run. -/
def usedMachine : Machine where
  files := ⟨[(["work"], .directory), (["work", "artifacts"], .directory)], ["work"]⟩
  network := ⟨fun _ => true, [], []⟩
  signals := .quiet
  timestamp := ""

/-- An environment that asks for a log file in a directory of its own. -/
def loggedEnvironment (name : String) : Option String :=
  if name = "PFLT_LOGFILE" then some "logs/run.log" else none

/-- A submission without credentials is refused before its log file is set up, and an image that
fails a check is reported with exit code 0. -/
theorem exitCode_of_stages_of_failed_check :
    let refused : Invocation := ⟨["check", "container", "--submit", "busybox"], loggedEnvironment⟩
    let failed : Invocation := ⟨["check", "container", "busybox"], loggedEnvironment⟩
    (run refused usedMachine).1.exitCode = 2 ∧ (run refused usedMachine).2 = usedMachine ∧
      ∃ line, CommandLine.parse failed.arguments = .ok line ∧
        ∃ settings outcome after, outcome.passed = false ∧
          checked ⟨"busybox", false⟩ settings usedMachine = (.ok outcome, after) ∧
          (run failed usedMachine).1.exitCode = 0 := by
  intro refused failed
  have hrefused : (run refused usedMachine).1.exitCode = 2 := by decide +kernel
  let line : CommandLine :=
    ⟨["busybox"], false, false, none, CommandLine.flagsOf ⟨[], [], ["busybox"]⟩⟩
  have hline : CommandLine.parse failed.arguments = .ok line := by decide +kernel
  have hfile : Loads failed usedMachine line (.ok .empty) := by
    unfold Loads
    decide +kernel
  let given := settingsFor .empty loggedEnvironment line.flags
  have haccepted : (Validation.validate line.images line.flags).result given =
      .ok ⟨"busybox", false⟩ := by decide +kernel
  let settings := (Validation.validate line.images line.flags).after given
  have hpassed : (checked ⟨"busybox", false⟩ settings usedMachine).1.toOption.map Outcome.passed =
      some false := by decide +kernel
  rcases hchecked : checked ⟨"busybox", false⟩ settings usedMachine with ⟨error | outcome, after⟩
  · simp [hchecked, Except.toOption] at hpassed
  · have hfailed : outcome.passed = false := by
      simpa [hchecked, Except.toOption] using hpassed
    refine ⟨hrefused, (exitCode_of_stages refused usedMachine).1 (.inl hrefused), line, hline,
      settings, outcome, after, hfailed, hchecked, ?_⟩
    exact ((exitCode_of_stages failed usedMachine).2 line hline).2.2.mpr
      ⟨.empty, hfile, _, settings, Action.apply_of_result haccepted, outcome, after, hchecked⟩

end ContainerCert.Program
