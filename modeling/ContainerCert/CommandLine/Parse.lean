import ContainerCert.CommandLine.Options
import ContainerCert.Text.Cut

/-!
# Reading the command line

Arguments are read from left to right, level by level. An option without its value waits for the
next argument, and is settled when something else comes up: then it must have a value, must not
have been given before, and must allow the value it has. What is wrong below a level is told
before what is wrong at it. After two hyphens alone every argument is an image.
-/

namespace ContainerCert

open Config (Key Flag Flags)

namespace CommandLine


/-- Why a command line is not run: it is at fault, or it asks for an explanation. -/
inductive UsageError where
  | unknownArgument
  | invalidCommand
  /-- An option is given twice. -/
  | repeated
  /-- An option has no value, or one it does not allow. -/
  | invalidValue
  /-- A switch is given a value. -/
  | unwantedValue
  | missingCommand
  /-- Nothing is given, which is answered by an explanation. -/
  | nothingGiven
  | help
  | version
  deriving DecidableEq, Repr

/-- The exit code of a command line that is not run. -/
def UsageError.exitCode : UsageError → Nat
  | .help | .version => 0
  | _ => 2

/-- What was typed at one level. -/
structure Typed where
  switches : List Switch
  values : List (ValueOption × String)
  images : List String
  deriving DecidableEq, Repr

/-- What was typed at one level so far: an option may be waiting to be settled, with or without a
value, and two hyphens alone may have been read. -/
structure Progress where
  typed : Typed
  waiting : Option (ValueOption × Option String)
  onlyImages : Bool
  deriving DecidableEq, Repr

namespace Progress

/-- Nothing typed yet. -/
def start : Progress := ⟨⟨[], [], []⟩, none, false⟩

/-- Note an option with its value. -/
def addValue (progress : Progress) (option : ValueOption) (value : String) :
    Except UsageError Progress :=
  if progress.typed.values.any (·.1 == option) then .error .repeated
  else if value.isEmpty && !option.takesEmpty then .error .invalidValue
  else .ok { progress with
    typed := { progress.typed with values := progress.typed.values ++ [(option, value)] } }

/-- Settle the option that is waiting, if one is. -/
def settle (progress : Progress) : Except UsageError Progress :=
  match progress.waiting with
  | none => .ok progress
  | some (_, none) => .error .invalidValue
  | some (option, some value) => { progress with waiting := none }.addValue option value

/-- The option that waits for a value. -/
def awaiting? (progress : Progress) : Option ValueOption :=
  match progress.waiting with
  | some (option, none) => some option
  | _ => none

/-- Give the waiting option its value. -/
def give (progress : Progress) (option : ValueOption) (value : String) : Progress :=
  { progress with waiting := some (option, some value) }

/-- Note a switch. -/
def addSwitch (progress : Progress) (switch : Switch) : Except UsageError Progress := do
  let progress ← progress.settle
  if switch ∈ progress.typed.switches then throw .repeated
  return { progress with
    typed := { progress.typed with switches := progress.typed.switches ++ [switch] } }

/-- Ask for an explanation. -/
def ask (progress : Progress) (request : UsageError) : Except UsageError Progress := do
  let _ ← progress.settle
  throw request

/-- Note an option that was given by its name, with the value after its equals sign if there is
one. -/
def long (level : Level) (progress : Progress) (name : String) (value : Option String) :
    Except UsageError Progress :=
  match level.long? name, value with
  | none, _ => .error .unknownArgument
  | some (.value option), none => do
    let progress ← progress.settle
    return { progress with waiting := some (option, none) }
  | some (.value option), some value => do
    let progress ← progress.settle
    progress.addValue option value
  | some _, some _ => .error .unwantedValue
  | some (.switch switch), none => progress.addSwitch switch
  | some .help, none => progress.ask .help
  | some .version, none => progress.ask .version

/-- Note options that were given by their letters. -/
def shorts (level : Level) : Progress → List Char → Except UsageError Progress
  | progress, [] => .ok progress
  | progress, letter :: letters =>
    match level.short? letter with
    | some (.switch switch) => do
      let progress ← progress.addSwitch switch
      shorts level progress letters
    | some .help => progress.ask .help
    | some .version => progress.ask .version
    | some (.value _) | none => .error .unknownArgument

/-- Note an argument that is no option: an image, where the level takes images. -/
def plain (level : Level) (progress : Progress) (word : String) : Except UsageError Progress :=
  match level with
  | .container => do
    let progress ← progress.settle
    return { progress with
      typed := { progress.typed with images := progress.typed.images ++ [word] } }
  | level =>
    .error (if progress.onlyImages && level.isCommand word then .unknownArgument
      else .invalidCommand)

/-- What an argument looks like. -/
inductive Word where
  /-- Two hyphens alone. -/
  | escape
  | long (name : String) (value : Option String)
  | shorts (letters : List Char)
  | plain
  deriving DecidableEq, Repr

/-- What an argument looks like by its hyphens. -/
def Word.of (argument : String) : Word :=
  match argument.toList with
  | ['-', '-'] => .escape
  | '-' :: '-' :: body =>
    match Text.cutFirst? '=' body with
    | none => .long (String.ofList body) none
    | some (name, value) => .long (String.ofList name) (some (String.ofList value))
  | '-' :: c :: letters => .shorts (c :: letters)
  | _ => .plain

/-- Note an argument that is no command. -/
def argument (level : Level) (progress : Progress) (word : String) : Except UsageError Progress :=
  if progress.onlyImages then progress.plain level word
  else match progress.awaiting?, Word.of word with
    | some option, .plain => .ok (progress.give option word)
    | none, .plain => progress.plain level word
    | awaiting, look =>
      match awaiting.filter ValueOption.takesHyphens, look with
      | some option, _ => .ok (progress.give option word)
      | none, .escape => .ok { progress with onlyImages := true }
      | none, .long name value => progress.long level name value
      | none, .shorts letters => progress.shorts level letters
      | none, .plain => progress.plain level word

/-- What was typed at a level where the arguments end. -/
def finish (level : Level) (progress : Progress) : Except UsageError Typed := do
  let progress ← progress.settle
  if level.next?.isNone then return progress.typed
  else if progress.typed.switches.isEmpty && progress.typed.values.isEmpty then
    throw .nothingGiven
  else throw .missingCommand

end Progress

/-- What the command `help` answers at a level for the names after it. -/
def explain : Option Level → List String → UsageError
  | _, [] => .help
  | none, _ :: _ => .invalidCommand
  | some level, name :: names =>
    match level.next? with
    | none => .invalidCommand
    | some (command, next) =>
      if name = command then explain (some next) names
      else if name = Level.helpCommand then explain none names
      else .invalidCommand

/-- Read the arguments of a level and those below it. -/
def parseAt : Level → Progress → List String → Except UsageError (List Typed)
  | level, progress, [] => do
    let typed ← progress.finish level
    return [typed]
  | level, progress, word :: words =>
    let enters := !progress.onlyImages && progress.awaiting?.isNone
    match if enters then level.next? else none with
    | some (command, next) =>
      if word = command then do
        let below ← parseAt next .start words
        let progress ← progress.settle
        return progress.typed :: below
      else if word = Level.helpCommand then .error (explain (some level) words)
      else do
        let progress ← progress.argument level word
        parseAt level progress words
    | none => do
      let progress ← progress.argument level word
      parseAt level progress words

end CommandLine

/-- A command line that can be run. -/
structure CommandLine where
  images : List String
  verbose : Bool
  debug : Bool
  /-- The configuration file that is named. -/
  config : Option String
  flags : Flags
  deriving DecidableEq, Repr

namespace CommandLine

/-- The value of an option, where it was typed. -/
def Typed.value? (typed : Typed) (option : ValueOption) : Option String :=
  (typed.values.find? (·.1 == option)).map (·.2)

/-- The flag for a key, as it was typed or not. -/
def flagFor (typed : Typed) (key : Key) (name : String) : Flag :=
  match switchFor? key, optionFor? key with
  | some switch, _ =>
    let on := decide (switch ∈ typed.switches)
    ⟨name, if on then "true" else "false", on⟩
  | none, some option =>
    match Typed.value? typed option with
    | some value => ⟨name, value, true⟩
    | none => ⟨name, option.untyped, false⟩
  | none, none => ⟨name, "", false⟩

/-- The flags of all keys that have one. -/
def flagsOf (typed : Typed) : Flags :=
  ⟨Key.all.filterMap fun key => key.flag?.map (flagFor typed key)⟩

/-- What was typed at all levels, taken together: a switch that all levels share is on where it was
typed at any of them, and of the values of an option the one of the lowest level counts. -/
def ofLevels (levels : List Typed) : CommandLine :=
  let lowest := levels.getLast?.getD ⟨[], [], []⟩
  { images := lowest.images
    verbose := levels.any fun typed => typed.switches.contains .verbose
    debug := levels.any fun typed => typed.switches.contains .debug
    config := levels.reverse.findSome? fun typed => Typed.value? typed .config
    flags := flagsOf lowest }

/-- Read a command line. -/
def parse (arguments : List String) : Except UsageError CommandLine :=
  (parseAt .program .start arguments).map ofLevels

end CommandLine
end ContainerCert
