import ContainerCert.Host.Basic

/-!
# Addresses of requests

The address of a request as it is read from a text, and the form in which a failed request shows
it. The host stands in the form in which it is sent, without the number after it that goes without
saying; a user that is named before it is left out, unless the name is no text. Segments of points
are followed, and characters that cannot stand in an address are written as the bytes of their
UTF-8 form, each a percent sign and two digits.
-/

namespace ContainerCert.Pyxis

/-- An address: its scheme with what follows it, the user that is left in it with the sign behind,
its host, the number of the host with the colon before it, if it has to be said, and what comes
after that. -/
structure Address where
  scheme : String
  user : List Char
  host : Host
  number : List Char
  behind : List Char
  deriving DecidableEq, Repr

namespace Address

open Text (cutFirst? cutLast? splitAt joinWith)

/-- Whether a character does not count where an address is read. -/
def isSkipped (c : Char) : Bool :=
  c == '\t' || c == '\n' || c == '\r'

/-- Whether a character does not count at the ends of an address. -/
def isOuter (c : Char) : Bool :=
  decide (c.toNat ≤ 0x20)

/-- The characters of an address that count. -/
def significant (text : List Char) : List Char :=
  ((text.dropWhile isOuter).reverse.dropWhile isOuter).reverse.filter (!isSkipped ·)

/-- Whether a character parts segments. -/
def isSlash (c : Char) : Bool :=
  c == '/' || c == '\\'

/-- Whether the host ends before the character. -/
def endsHost (c : Char) : Bool :=
  isSlash c || c == '?' || c == '#'

/-- Write the characters of a set, the controls and all beyond ASCII as bytes. -/
def encode (set : List Char) (text : List Char) : List Char :=
  text.flatMap fun c =>
    if c.toNat ≤ 0x20 || 0x7F ≤ c.toNat || set.contains c then
      (String.singleton c).toUTF8.toList.flatMap Text.Percent.ofByte
    else [c]

/-- The characters that are written as bytes in a path. -/
def pathSet : List Char := ['"', '#', '<', '>', '?', '\x60', '\x7b', '\x7d']

/-- The characters that are written as bytes in a query. -/
def querySet : List Char := ['"', '#', '\'', '<', '>']

/-- The characters that are written as bytes in a fragment. -/
def fragmentSet : List Char := ['"', '<', '>', '\x60']

/-- Whether a segment is one point, which stays where it is. -/
def isPoint (segment : List Char) : Bool :=
  [".", "%2e"].contains (String.ofList (segment.map Char.toLower))

/-- Whether a segment is two points, which go back by one segment. -/
def isTwoPoints (segment : List Char) : Bool :=
  ["..", ".%2e", "%2e.", "%2e%2e"].contains (String.ofList (segment.map Char.toLower))

/-- Follow the segments of a path; the ones passed so far come last first. Points at the end leave
an empty segment. -/
def follow : List (List Char) → List (List Char) → List (List Char)
  | passed, [] => passed.reverse
  | passed, segment :: rest =>
    if isPoint segment then follow (if rest.isEmpty then [] :: passed else passed) rest
    else if isTwoPoints segment then
      follow (if rest.isEmpty then [] :: passed.drop 1 else passed.drop 1) rest
    else follow (segment :: passed) rest

/-- The path of an address, from the text after its host. -/
def path (text : List Char) : List Char :=
  let text := text.map fun c => if isSlash c then '/' else c
  let body := if text.head? = some '/' then text.drop 1 else text
  '/' :: joinWith '/' ((follow [] (splitAt '/' body)).map (encode pathSet))

/-- A part of an address behind a mark, if it has one. -/
def marked (mark : Char) (set : List Char) : Option (List Char) → List Char
  | none => []
  | some text => mark :: encode set text

/-- What comes after the host: the path, the query and the fragment. -/
def behindHost (text : List Char) : List Char :=
  let (text, fragment) := match cutFirst? '#' text with
    | some (text, fragment) => (text, some fragment)
    | none => (text, none)
  let (text, query) := match cutFirst? '?' text with
    | some (text, query) => (text, some query)
    | none => (text, none)
  path text ++ marked '?' querySet query ++ marked '#' fragmentSet fragment

/-- The number after a host with its colon, left out where it is the usual one or missing. -/
def number? (usual : Nat) (text : List Char) : Option (List Char) :=
  if !text.all Char.isDigit then none
  else
    let number := text.foldl (fun n c => 10 * n + (c.toNat - '0'.toNat)) 0
    if number ≥ Nat.pow 2 16 then none
    else if text.isEmpty ∨ number = usual then some []
    else some (':' :: Nat.toDigits 10 number)

/-- A host and what follows it: a colon ends it, but not between brackets. -/
def cutHost : Bool → List Char → List Char × List Char
  | _, [] => ([], [])
  | inBrackets, c :: rest =>
    if c = ':' ∧ !inBrackets then ([], c :: rest)
    else
      let (host, after) := cutHost (c == '[' || (inBrackets && c != ']')) rest
      (c :: host, after)

/-- The characters that are written as bytes in the name and the password of a user. -/
def userSet : List Char := pathSet ++ "/:;=@[\\]^|".toList

/-- Whether the bytes of an encoded text are a text. -/
def isReadable (text : List Char) : Bool :=
  (Text.Percent.decodeText? text).isSome

/-- What is left of a user, given by name and password: all of it if the name is no text, or if the
name is empty and the password is no text. -/
def userLeft (text : List Char) : List Char :=
  let (name, password) := (cutFirst? ':' text).getD (text, [])
  let (name, password) := (encode userSet name, encode userSet password)
  if isReadable (if name.isEmpty then password else name) then []
  else name ++ (if password.isEmpty then [] else ':' :: password) ++ ['@']

/-- The address that a text gives after its scheme. -/
def afterScheme? (scheme : String) (usual : Nat) (text : List Char) : Option Address := do
  let text := text.dropWhile isSlash
  let (user, server) := match cutLast? '@' (text.takeWhile (!endsHost ·)) with
    | some (user, server) => (userLeft user, server)
    | none => ([], text.takeWhile (!endsHost ·))
  let (host, number) := cutHost false server
  return ⟨scheme, user, ← Host.ofText? host, ← number? usual (number.drop 1),
    behindHost (text.dropWhile (!endsHost ·))⟩

/-- The address that a text gives. -/
def ofText? (text : String) : Option Address :=
  match significant text.toList with
  | 'h' :: 't' :: 't' :: 'p' :: ':' :: rest => afterScheme? "http://" 80 rest
  | 'h' :: 't' :: 't' :: 'p' :: 's' :: ':' :: rest => afterScheme? "https://" 443 rest
  | _ => none

/-- The form in which an address is shown. -/
def shown (address : Address) : String :=
  address.scheme ++
    String.ofList (address.user ++ address.host.shown ++ address.number ++ address.behind)

/-- The greatest count of bytes in an address that a request can be sent to. -/
def longest : Nat := 65534

/-- Whether a request can be sent to an address. -/
def isSendable (address : Address) : Bool :=
  address.host.isSendable && decide (address.shown.utf8ByteSize ≤ longest)

end Address
end ContainerCert.Pyxis
