import ContainerCert.Program
import Std.Time.DateTime

/-!
# The command

What surrounds an invocation: the files and variables it may ask for are fetched before it runs,
and the files it made or changed are written when it has ended. The command reaches no server, so
a run that submits ends at its first request.
-/

namespace ContainerCert.Command

open Config (Key LoadError)
open Files
open Program (Ending Invocation)
open Run (Machine)

/-- What has been fetched: files, and variables with their values. -/
structure Surroundings where
  files : FileTree
  values : List (String × String)

namespace Surroundings

/-- A working directory with nothing fetched yet. -/
def ofWorkingDirectory (path : String) : Surroundings :=
  let location := (FileTree.segments path).filter (!·.isEmpty)
  let above := (List.range location.length).map fun count => location.take (count + 1)
  ⟨⟨above.map (·, .directory), location⟩, []⟩

/-- The value of a variable that has been fetched. -/
def lookup? (known : Surroundings) (name : String) : Option String :=
  known.values.lookup name

/-- Fetch a variable, if it is set. -/
def fetchVariable (known : Surroundings) (name : String) : IO Surroundings := do
  match ← IO.getEnv name with
  | some value => return { known with values := (name, value) :: known.values }
  | none => return known

/-- The words of a text that can be names of variables. -/
def wordsOf (text : String) : List String :=
  let spaced := text.toList.map fun c => if Config.Interpolation.isNameChar c then c else ' '
  ((Text.splitAt ' ' spaced).filter (!·.isEmpty)).map String.ofList

/-- Fetch the file at a path, if it can be read, and the variables that its text may name. -/
def fetchFile (known : Surroundings) (path : String) : IO Surroundings := do
  let content? ← (some <$> IO.FS.readBinFile path) <|> pure none
  match content? with
  | none => return known
  | some content =>
    let files := (FileTree.makeParent path).after known.files
    let known := { known with files := (FileTree.write path content).after files }
    (wordsOf ((String.fromUTF8? content).getD "")).foldlM fetchVariable known

/-- The file that a configuration is not loaded for want of. -/
def wanted? : LoadError → Option String
  | .unresolved path .notFound => some path
  | .missing path _ => some path
  | _ => none

/-- Fetch the files of a configuration, one after the other as they turn out to be wanted. -/
partial def fetchIncluded (known : Surroundings) (named : Option String) : IO Surroundings := do
  match Config.File.load known.files known.lookup? named with
  | .ok _ => return known
  | .error error =>
    match wanted? error with
    | none => return known
    | some path =>
      let more ← known.fetchFile path
      if more.files.doesExist path then more.fetchIncluded named else return known

/-- Fetch what an invocation with these arguments may ask for. -/
def fetch (known : Surroundings) (arguments : List String) : IO Surroundings := do
  let known ← (Key.all.map Key.environmentVariable).foldlM fetchVariable known
  match CommandLine.parse arguments with
  | .error _ => return known
  | .ok line =>
    let known ← known.fetchFile Config.File.defaultPath
    let known ← known.fetchIncluded line.config
    match Config.File.load known.files known.lookup? line.config with
    | .error _ => return known
    | .ok file =>
      let settings := Program.settingsFor file known.lookup? line.flags
      [Key.logFile, Key.artifacts].foldlM (fun known key => known.fetchFile (settings.getText key))
        known

end Surroundings

/-- A number in decimal digits, filled up with zeros in front. -/
def padded (width number : Nat) : String :=
  let digits := toString number
  String.ofList (List.replicate (width - digits.length) '0') ++ digits

/-- The text of the present time. -/
def presentTime : IO String := do
  let moment := (← Std.Time.Timestamp.now).val
  let seconds := moment.second.val.toNat
  let date := Std.Time.PlainDate.ofEpochDay ⟨Int.ofNat (seconds / 86400)⟩
  let time := [seconds / 3600 % 24, seconds / 60 % 60, seconds % 60].map (padded 2)
  return padded 4 date.year.toInt.toNat ++ "-" ++ padded 2 date.month.val.toNat ++ "-" ++
    padded 2 date.day.val.toNat ++ "T" ++ ":".intercalate time ++ "." ++
    padded 9 moment.nano.val.toNat ++ "+00:00"

/-- Write what stands in the files after a run and did not stand there before it. -/
def store (before after : FileTree) : IO Unit :=
  after.entries.forM fun (location, node) => do
    if before.node? location ≠ some node then
      let path := "/" ++ "/".intercalate location
      match node with
      | .directory => IO.FS.createDirAll path
      | .file content => IO.FS.writeBinFile path content

/-- The report of an error from its reasons, the widest first. -/
def report : List String → String
  | [] => ""
  | [reason] => "Error: " ++ reason ++ "\n"
  | reason :: causes =>
    "Error: " ++ reason ++ "\n\nCaused by:\n" ++
      String.join (causes.map fun cause => "    " ++ cause ++ "\n")

/-- What is written to standard error. -/
def complaint : Ending → String
  | .notUnderstood error => if error.exitCode = 0 then "" else Program.Ending.usage
  | ending => ending.refusal ++ report ending.reasons

end ContainerCert.Command

open ContainerCert in
/-- Run the command with its arguments. -/
def main (arguments : List String) : IO UInt32 := do
  let here := Command.Surroundings.ofWorkingDirectory (← IO.currentDir).toString
  let known ← here.fetch arguments
  let machine : Run.Machine :=
    ⟨known.files, ⟨fun _ => false, [], []⟩, .quiet, ← Command.presentTime⟩
  let invocation : Program.Invocation := ⟨arguments, known.lookup?⟩
  IO.eprint (Program.warnings invocation machine.files)
  let (ending, machine) := Program.run invocation machine
  Command.store known.files machine.files
  let output ← IO.getStdout
  output.write ending.output
  output.flush
  IO.eprint (Command.complaint ending)
  return UInt32.ofNat ending.exitCode
