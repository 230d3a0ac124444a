import ContainerCert.Config.Settings
import ContainerCert.Text.Cut

/-!
# Flags as they were typed

The flags of one command line, each with its value and a note whether the user typed it. Whether
the user asks for a submission is seen in the values too: the marker `--submit` inside the value
of another flag still says so.
-/

namespace ContainerCert.Config

open Text (summary quote)

/-- A flag of the command line. -/
structure Flag where
  name : String
  value : String
  /-- Whether the user typed the flag. -/
  changed : Bool
  deriving DecidableEq, Repr

/-- The flag as developers see it, a token masked. -/
def Flag.summary (flag : Flag) : String :=
  let shown :=
    if Key.apiToken.flag? = some flag.name then Pyxis.Token.mask else flag.value
  Text.summary "FlagValue" [("name", quote flag.name), ("value", quote shown),
    ("changed", Text.summaryBool flag.changed)]

/-- The flags of one command line. -/
structure Flags where
  list : List Flag
  deriving DecidableEq, Repr

namespace Flags

/-- No flags. -/
def none : Flags := ⟨[]⟩

/-- The first flag of a name. -/
def find? (flags : Flags) (name : String) : Option Flag :=
  flags.list.find? (·.name == name)

/-- Whether the user typed the flag of a name. -/
def changed (flags : Flags) (name : String) : Bool :=
  match flags.find? name with
  | some flag => flag.changed
  | .none => false

/-- The text that asks for a submission. -/
def submitMarker : String := "--submit"

/-- Whether a flag that was typed carries the submission marker inside its value. -/
def asksToSubmit (flags : Flags) : Bool :=
  flags.list.any fun flag =>
    flag.changed && Text.holds submitMarker.toList flag.value.toList

/-- The value that a typed flag gives for its key. -/
def valueFor (key : Key) (flag : Flag) : Value :=
  if key.isSwitch then .switch (flag.value == "true") else .text flag.value

/-- Give the settings every flag that was typed. -/
def apply (flags : Flags) (settings : Settings) : Settings :=
  flags.list.foldl (fun settings flag =>
    if flag.changed then
      match Key.ofFlag? flag.name with
      | some key => settings.putFlag key (valueFor key flag)
      | .none => settings
    else settings) settings

/-- The flags as developers see them. -/
def summary (flags : Flags) : String :=
  Text.summary "FlagSnapshot" [("flags", Text.summaryList (flags.list.map Flag.summary))]

end Flags
end ContainerCert.Config
