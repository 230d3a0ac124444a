import ContainerCert.Host.Direction
import ContainerCert.Host.Joiner
import ContainerCert.Text.Punycode

/-!
# Names of hosts

A name consists of labels parted by points. It is sent in letters, digits and hyphens: a label with
other characters as `xn--` and its Punycode. A label that comes in this form must be one that would
be written so.
-/

namespace ContainerCert.Host

open Text (compose isMark joinWith splitAt)

/-- Whether a character cannot stand in the name of a host. -/
def isForbidden (c : Char) : Bool :=
  decide (c.toNat ≤ 0x20) || c.toNat == 0x7F || "#/:<>?@[\\]^|%".toList.contains c

/-- Whether a text is written in ASCII. -/
def isAscii (text : List Char) : Bool :=
  text.all fun c => c.toNat < 0x80

/-- What a label that is written in Punycode starts with. -/
def codedStart : List Char := ['x', 'n', '-', '-']

/-- The greatest length of Punycode that is read. -/
def longestCode : Nat := 2000

/-- The greatest length of a label that is written in Punycode. -/
def longestLabel : Nat := 1000

/-- The label that was written as Punycode: it must be in the form that names are brought into, and
hold a character that is not ASCII. -/
def decoded? (code : List Char) : Option (List Char) :=
  if longestCode < code.length ∨ code.getLast? = none ∨ code.getLast? = some '-' then none
  else do
    let label ← Text.Punycode.decode? code
    if label.all (fun c => isFolded c && !isForbidden c) && compose label == label then some label
    else none

/-- Whether a label that is not ASCII can be written in Punycode: it starts with no mark, and its
joiners stand where they may. -/
def isWritable (label : List Char) : Bool :=
  !label.head?.any isMark && joinersFit [] label && decide (label.length ≤ longestLabel)

/-- The label that a part of a folded name stands for. -/
def label? (part : List Char) : Option (List Char) := do
  let label ←
    if codedStart.isPrefixOf part then
      if isAscii part then decoded? (part.drop codedStart.length) else none
    else some part
  if isAscii label || isWritable label then some label else none

/-- A label in ASCII. -/
def written (label : List Char) : List Char :=
  if isAscii label then label else codedStart ++ Text.Punycode.encode label

/-- The form in which the name of a host is sent, if the text is one. -/
def name? (text : List Char) : Option (List Char) := do
  let folded ← fold? text
  if folded.any isForbidden then none
  let labels ← (splitAt '.' folded).mapM label?
  if directionsAgree labels then some (joinWith '.' (labels.map written)) else none

end ContainerCert.Host
