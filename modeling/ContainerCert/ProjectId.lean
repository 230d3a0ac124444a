import ContainerCert.Text.Cut

/-!
# Identifiers of certification projects

An identifier has one or two parts joined by a hyphen. The two-part form that starts with `ospid`
is an old spelling of its second part; any other identifier stands for itself.
-/

namespace ContainerCert.ProjectId

/-- The first part of an identifier in the old spelling. -/
def legacyPart : List Char :=
  "ospid".toList

/-- The identifier in its present spelling; none when it has more than two parts. -/
def normalize? (id : String) : Option String :=
  match Text.splitAt '-' id.toList with
  | [first, second] => some (if first = legacyPart then String.ofList second else id)
  | [_] => some id
  | _ => none

end ContainerCert.ProjectId
