import ContainerCert.Text.Quoted

/-!
# Summaries of values

The one-line form in which a value is shown to developers: the name of its type, then its parts
by name between braces. Lists stand between brackets and keyed values between braces without a
name; what has no parts is the bare name or bracket pair.
-/

namespace ContainerCert.Text

/-- A value with named parts, at least one. -/
def summary (name : String) (parts : List (String × String)) : String :=
  name ++ " \x7b " ++ ", ".intercalate (parts.map fun (part, shown) => part ++ ": " ++ shown) ++
    " \x7d"

/-- A value that wraps others. -/
def wrapped (name : String) (shown : String) : String :=
  name ++ "(" ++ shown ++ ")"

/-- A list of values. -/
def summaryList (items : List String) : String :=
  "[" ++ ", ".intercalate items ++ "]"

/-- Keyed values. -/
def summaryMap (entries : List (String × String)) : String :=
  "\x7b" ++ ", ".intercalate (entries.map fun (key, shown) => key ++ ": " ++ shown) ++ "\x7d"

/-- A truth value. -/
def summaryBool (value : Bool) : String :=
  if value then "true" else "false"

/-- A value that may be absent. -/
def summaryOption (shown : Option String) : String :=
  match shown with
  | none => "None"
  | some shown => wrapped "Some" shown

end ContainerCert.Text
