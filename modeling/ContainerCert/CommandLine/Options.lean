import ContainerCert.Config.Flags

/-!
# The options of the command line

The command line has three levels: the program itself, its command `check`, and the command
`container` below it. Every level has switches, which stand for themselves, and options that take
a value; some are understood at every level, and the rest at one of them.
-/

namespace ContainerCert.CommandLine

open Config (Key)

/-- A level of the command line. -/
inductive Level where
  | program
  | check
  | container
  deriving DecidableEq, Repr

/-- An option that stands for itself. -/
inductive Switch where
  | verbose
  | debug
  | submit
  | insecure
  deriving DecidableEq, Repr

/-- An option that takes a value. -/
inductive ValueOption where
  | config
  | apiToken
  | host
  | environment
  | projectId
  | platform
  deriving DecidableEq, Repr

/-- What a name or letter with hyphens can stand for. -/
inductive Choice where
  | switch (switch : Switch)
  | value (option : ValueOption)
  | help
  | version
  deriving DecidableEq, Repr

/-- Whether an option takes any argument for its value, even one that starts with a hyphen. -/
def ValueOption.takesHyphens : ValueOption → Bool
  | .config => false
  | _ => true

/-- Whether an option takes an empty value. -/
def ValueOption.takesEmpty : ValueOption → Bool
  | .config => false
  | _ => true

namespace Level

/-- The options that every level understands. -/
def commonLong? (name : String) : Option Choice :=
  if name = "verbose" then some (.switch .verbose)
  else if name = "debug" then some (.switch .debug)
  else if name = "config" then some (.value .config)
  else if name = "help" then some .help
  else none

/-- The options of the lowest level. -/
def containerLong? (name : String) : Option Choice :=
  if name = "submit" then some (.switch .submit)
  else if name = "insecure" then some (.switch .insecure)
  else if name = "pyxis-api-token" then some (.value .apiToken)
  else if name = "pyxis-host" then some (.value .host)
  else if name = "pyxis-env" then some (.value .environment)
  else if name = "certification-project-id" then some (.value .projectId)
  else if name = "platform" then some (.value .platform)
  else none

/-- The option that a level knows by a name. -/
def long? (level : Level) (name : String) : Option Choice :=
  commonLong? name <|>
    match level with
    | .program => if name = "version" then some .version else none
    | .check => none
    | .container => containerLong? name

/-- The option that a level knows by a letter. -/
def short? (level : Level) (letter : Char) : Option Choice :=
  if letter = 'v' then some (.switch .verbose)
  else if letter = 'h' then some .help
  else if letter = 'V' ∧ level = .program then some .version
  else if letter = 's' ∧ level = .container then some (.switch .submit)
  else none

/-- The command that leads to the next level. -/
def next? : Level → Option (String × Level)
  | .program => some ("check", .check)
  | .check => some ("container", .container)
  | .container => none

/-- The command that explains others, at every level that has commands. -/
def helpCommand : String := "help"

/-- Whether a word is a command of the level. -/
def isCommand (level : Level) (word : String) : Bool :=
  match level.next? with
  | none => false
  | some (name, _) => word == name || word == helpCommand

end Level

/-- The switch for a key, where the key's flag is one. -/
def switchFor? : Key → Option Switch
  | .submit => some .submit
  | .insecure => some .insecure
  | _ => none

/-- The option for a key, where the key's flag takes a value. -/
def optionFor? : Key → Option ValueOption
  | .apiToken => some .apiToken
  | .host => some .host
  | .environment => some .environment
  | .projectId => some .projectId
  | .platform => some .platform
  | _ => none

/-- The value of an option that was not typed. -/
def ValueOption.untyped : ValueOption → String
  | .environment => "prod"
  | _ => ""

end ContainerCert.CommandLine
