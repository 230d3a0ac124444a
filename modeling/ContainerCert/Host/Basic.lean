import ContainerCert.Host.Ipv4
import ContainerCert.Host.Ipv6
import ContainerCert.Host.Name
import ContainerCert.Text.Percent

/-!
# Hosts

The host in the address of a request: an address of eight pieces between brackets, an address of
four bytes, or a name.
-/

namespace ContainerCert

/-- A host. -/
inductive Host where
  /-- An address of four bytes, as one number. -/
  | bytes (address : Nat)
  /-- An address of eight pieces. -/
  | pieces (address : List Nat)
  | name (text : List Char)
  deriving DecidableEq, Repr

namespace Host

/-- The host of a name that has no characters behind percent signs. -/
def ofName? (text : List Char) : Option Host := do
  let name ← name? text
  if name.isEmpty then none
  else if Ipv4.isMeant name then (Ipv4.ofName? name).map .bytes
  else some (.name name)

/-- The text without brackets around it. -/
def inBrackets? (text : List Char) : Option (List Char) :=
  if text.getLast? = some ']' then some text.dropLast else none

/-- The host that stands in an address. -/
def ofText? : List Char → Option Host
  | '[' :: rest => do
    let inner ← inBrackets? rest
    return .pieces (← Ipv6.ofText? inner)
  | text => do ofName? (← Text.Percent.decodeText? text)

/-- The text of a host. -/
def shown : Host → List Char
  | bytes address => Ipv4.shown address
  | pieces address => '[' :: Ipv6.shown address ++ [']']
  | name text => text

/-- Whether a character keeps a host from being reached although names may hold it. -/
def isUnsendable (c : Char) : Bool :=
  c == '"' || c == '\x60' || c == '\x7b' || c == '\x7d'

/-- Whether a request can be sent to a host. -/
def isSendable (host : Host) : Bool :=
  !host.shown.any isUnsendable

end Host
end ContainerCert
