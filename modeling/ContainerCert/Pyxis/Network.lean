import ContainerCert.Action
import ContainerCert.Json.Basic
import ContainerCert.Pyxis.Address
import ContainerCert.Pyxis.Token

/-!
# Exchanges over the network

Every request that is attempted is noted, whether or not it can be sent and a server is reached. A
server that is reached answers from a list, in order, and keeps giving the same empty document
when the list is used up; an answer may also be lost on the way. Statuses that say who is at fault
are failures.
-/

namespace ContainerCert.Pyxis

/-- What a request does. -/
inductive Method where
  | get
  | post
  deriving DecidableEq, Repr

/-- The name of a method. -/
def Method.name : Method → String
  | .get => "GET"
  | .post => "POST"

/-- A request, with the token it carries and the document it sends. -/
structure Request where
  method : Method
  url : String
  token : Token
  body : Option Json

/-- What a server does with a request it got. -/
inductive Answer where
  | reply (status : Nat) (body : String)
  | dropped
  deriving DecidableEq, Repr

/-- The answer of a server that has nothing else to say. -/
def Answer.usual : Answer := .reply 200 "\x7b\x7d"

/-- Why a request fails. -/
inductive Failure where
  /-- The request cannot be put together. -/
  | unsendable
  /-- The request has an address that nothing can be sent to. -/
  | unaddressable
  /-- No answer came. -/
  | unanswered
  | refused (status : Nat)
  /-- The answer is not the document that was expected. -/
  | unreadable
  deriving DecidableEq, Repr

/-- The network as a run meets it: which addresses have a server, how the server answers from now
on, and the requests that were attempted so far. -/
structure Network where
  reaches : String → Bool
  answers : List Answer
  attempted : List Request

/-- Whether a character can stand in a header. -/
def isHeaderChar (c : Char) : Bool :=
  c == '\t' || (decide (0x20 ≤ c.toNat) && c.toNat != 0x7F)

/-- Whether a token can be sent. -/
def Token.isSendable (token : Token) : Bool :=
  token.secret.toList.all isHeaderChar

/-- Whether a status says that the client or the server is at fault. -/
def isFault (status : Nat) : Bool :=
  decide (400 ≤ status) && decide (status < 600)

/-- What an answer means for the one who asked: the body, or why there is none. -/
def Answer.outcome : Answer → Except Failure String
  | .dropped => .error .unanswered
  | .reply status body => if isFault status then .error (.refused status) else .ok body

/-- Why a request cannot be sent at all, if it cannot: its token or its address does not let it be
put together, or nothing can be sent to the address. -/
def Request.hindrance? (request : Request) : Option Failure :=
  match Address.ofText? request.url with
  | none => some .unsendable
  | some address =>
    if !request.token.isSendable then some .unsendable
    else if !address.isSendable then some .unaddressable
    else none

/-- Send a request and wait for the answer. -/
def send (request : Request) : Action Network Failure String := fun network =>
  let network := { network with attempted := network.attempted ++ [request] }
  match request.hindrance? with
  | some failure => (.error failure, network)
  | none =>
    if !network.reaches request.url then (.error .unanswered, network)
    else match network.answers with
      | [] => (Answer.usual.outcome, network)
      | answer :: answers => (answer.outcome, { network with answers })

end ContainerCert.Pyxis
