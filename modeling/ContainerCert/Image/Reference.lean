import ContainerCert.Json.Basic
import ContainerCert.Text.Blank
import ContainerCert.Text.Cut
import ContainerCert.Text.Quoted

/-!
# References to container images

A reference names a repository in a registry and pins it to a tag, a digest or both:
`registry/repository:tag@algorithm:hex`. All after the first `@` is the digest, and the tag
follows the last colon after the last slash. The part before the first slash is a registry when
it has a point or a colon in it or is `localhost`; a name without one belongs to the default
registry, and a name of one part to the library there.
-/

namespace ContainerCert.Image

open Text (cutFirst? cutLast? splitAt)

/-- A reference to an image. -/
structure Reference where
  registry : String
  repository : String
  tag : Option String
  digest : Option String
  deriving DecidableEq, Repr

/-- Why a text is not a reference. -/
inductive ReferenceError where
  | empty
  | invalidRepository (name : String)
  | invalidTag (tag : String)
  | invalidDigest (digest : String)
  deriving DecidableEq, Repr

/-- The message of a reference error. -/
def ReferenceError.message : ReferenceError → String
  | .empty => "image reference is empty"
  | .invalidRepository name => "invalid repository name " ++ Text.quote name
  | .invalidTag tag => "invalid tag " ++ Text.quote tag
  | .invalidDigest digest => "invalid digest " ++ Text.quote digest

namespace Reference

/-- The registry of names that do not give one. -/
def defaultRegistry : String := "docker.io"

/-- A letter or digit of ASCII. -/
def isAlphanumeric (c : Char) : Bool :=
  c.isAlpha || c.isDigit

/-- A hexadecimal digit of ASCII. -/
def isHexDigit (c : Char) : Bool :=
  c.isDigit || ('a' ≤ c && c ≤ 'f') || ('A' ≤ c && c ≤ 'F')

/-- The characters of a component of a repository's path. -/
def isPathChar (c : Char) : Bool :=
  c.isLower || c.isDigit || c == '.' || c == '_' || c == '-'

/-- Whether a text can be a component of a repository's path. -/
def isPathComponent : List Char → Bool
  | [] => false
  | c :: rest => isAlphanumeric c && (c :: rest).all isPathChar

/-- The characters of a tag. -/
def isTagChar (c : Char) : Bool :=
  isAlphanumeric c || c == '_' || c == '.' || c == '-'

/-- The greatest length of a tag. -/
def tagLimit : Nat := 128

/-- Whether a text can be a tag. -/
def isTag : List Char → Bool
  | [] => false
  | c :: rest =>
    decide ((c :: rest).length ≤ tagLimit) && (isAlphanumeric c || c == '_') &&
      (c :: rest).all isTagChar

/-- The least count of digits in a digest. -/
def digestLeast : Nat := 32

/-- Whether a text can be a digest: an algorithm, a colon and enough hexadecimal digits. -/
def isDigest (text : List Char) : Bool :=
  match cutFirst? ':' text with
  | none => false
  | some (algorithm, hex) =>
    !algorithm.isEmpty && algorithm.all isAlphanumeric && decide (digestLeast ≤ hex.length) &&
      hex.all isHexDigit

/-- Cut the digest off a reference. -/
def splitDigest (text : List Char) : Except ReferenceError (List Char × Option (List Char)) :=
  match cutFirst? '@' text with
  | none => .ok (text, none)
  | some (before, digest) =>
    if isDigest digest then .ok (before, some digest)
    else .error (.invalidDigest (String.ofList digest))

/-- The name and the text of the tag, which follows the last colon after the last slash. -/
def cutTag (text : List Char) : List Char × Option (List Char) :=
  match cutLast? '/' text with
  | none =>
    match cutLast? ':' text with
    | none => (text, none)
    | some (name, tag) => (name, some tag)
  | some (path, last) =>
    match cutLast? ':' last with
    | none => (text, none)
    | some (name, tag) => (path ++ '/' :: name, some tag)

/-- Cut the tag off a reference without digest. -/
def splitTag (text : List Char) : Except ReferenceError (List Char × Option (List Char)) :=
  match cutTag text with
  | (name, none) => .ok (name, none)
  | (name, some tag) =>
    if isTag tag then .ok (name, some tag) else .error (.invalidTag (String.ofList tag))

/-- Whether the first part of a name is a registry. -/
def isRegistry (part : List Char) : Bool :=
  part.contains '.' || part.contains ':' || part == "localhost".toList

/-- The registry of a name, and the repository in it. -/
def splitRegistry (name : List Char) : List Char × List Char :=
  match cutFirst? '/' name with
  | none => (defaultRegistry.toList, "library/".toList ++ name)
  | some (first, rest) =>
    if isRegistry first then (first, rest) else (defaultRegistry.toList, name)

/-- Read a reference without blanks at its ends. -/
def ofChars (text : List Char) : Except ReferenceError Reference := do
  if text.isEmpty then throw .empty
  let (text, digest) ← splitDigest text
  let (name, tag) ← splitTag text
  let (registry, repository) := splitRegistry name
  if (splitAt '/' repository).all isPathComponent then
    return ⟨String.ofList registry, String.ofList repository, tag.map String.ofList,
      digest.map String.ofList⟩
  else throw (.invalidRepository (String.ofList name))

/-- Read a reference; blanks at its ends do not count. -/
def parse (text : String) : Except ReferenceError Reference :=
  ofChars (Text.trim text.toList)

/-- Whether the reference names a tag or a digest. -/
def isPinned (reference : Reference) : Bool :=
  reference.digest.isSome || reference.tag.isSome

/-- The reference as a text. -/
def display (reference : Reference) : String :=
  let tag := match reference.tag with
    | none => ""
    | some tag => ":" ++ tag
  let digest := match reference.digest with
    | none => ""
    | some digest => "@" ++ digest
  reference.registry ++ "/" ++ reference.repository ++ tag ++ digest

/-- The reference as JSON; what it does not have is left out. -/
def toJson (reference : Reference) : Json :=
  .object ([("registry", .text reference.registry), ("repository", .text reference.repository)] ++
    (reference.tag.map fun tag => ("tag", Json.text tag)).toList ++
    (reference.digest.map fun digest => ("digest", Json.text digest)).toList)

end Reference
end ContainerCert.Image
