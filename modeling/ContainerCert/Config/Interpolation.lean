import ContainerCert.Text.Cut

/-!
# Variables in configuration texts

A configuration text may refer to environment variables. A reference stands between `${` and `}`
and holds a name, and after `:-` a default that is taken when the variable is unset or empty. The
text is scanned once from left to right, so what is put in is never scanned again. Where several
references fail, the leftmost one tells why; an opening that never closes counts only after the
last reference.
-/

namespace ContainerCert.Config

namespace Interpolation

/-- A reference to a variable. -/
structure Reference where
  name : List Char
  default : Option (List Char)
  deriving DecidableEq, Repr

/-- A piece of a text: a character, or a reference. -/
inductive Piece where
  | plain (c : Char)
  | reference (reference : Reference)
  deriving DecidableEq, Repr

/-- The reference after its opening, and the text after it. -/
def reference? (text : List Char) : Option (Reference × List Char) :=
  let name := text.takeWhile fun c => c != '\x7d' && c != ':'
  match text.dropWhile fun c => c != '\x7d' && c != ':' with
  | '\x7d' :: rest => some (⟨name, none⟩, rest)
  | ':' :: '-' :: rest =>
    match rest.dropWhile (· != '\x7d') with
    | '\x7d' :: after => some (⟨name, some (rest.takeWhile (· != '\x7d'))⟩, after)
    | _ => none
  | _ => none

/-- What follows a reference is shorter than the text it was read from. -/
theorem reference?_shorter {text rest : List Char} {reference : Reference}
    (h : reference? text = some (reference, rest)) : rest.length < text.length := by
  have shorter (p : Char → Bool) (l : List Char) : (l.dropWhile p).length ≤ l.length :=
    (List.dropWhile_sublist p).length_le
  simp only [reference?] at h
  have outer := shorter (fun c => c != '\x7d' && c != ':') text
  split at h
  · next heq => rw [heq] at outer; simp at h outer; grind
  · next inner heq =>
    have innermost := shorter (· != '\x7d') inner
    rw [heq] at outer
    split at h
    · next heq' => rw [heq'] at innermost; simp at h outer innermost; grind
    · simp at h
  · simp at h

/-- The pieces of a text. -/
def pieces (text : List Char) : List Piece :=
  match text with
  | [] => []
  | '$' :: '\x7b' :: rest =>
    match _ : reference? rest with
    | some (reference, after) => .reference reference :: pieces after
    | none => .plain '$' :: pieces ('\x7b' :: rest)
  | c :: rest => .plain c :: pieces rest
termination_by text.length
decreasing_by
  · have := reference?_shorter ‹_›; simp; omega
  · simp
  · simp

end Interpolation

/-- Why a text cannot be expanded. -/
inductive ExpandError where
  | emptyName
  | badStart (name : String)
  | badCharacter (name : String) (c : Char)
  | unset (name : String)
  /-- An opening that never closes, its place in bytes, and what follows it. -/
  | unclosed (position : Nat) (snippet : String)
  deriving DecidableEq, Repr

/-- The message of an expansion error. -/
def ExpandError.message : ExpandError → String
  | .emptyName => "empty environment variable name in $\x7b\x7d"
  | .badStart name =>
    "invalid environment variable name '" ++ name ++ "': must start with a letter or underscore"
  | .badCharacter name c =>
    "invalid environment variable name '" ++ name ++ "': contains invalid character '" ++
      c.toString ++ "'"
  | .unset name =>
    "environment variable '" ++ name ++ "' is not set. Use $\x7b" ++ name ++
      ":-default\x7d syntax to provide a default value."
  | .unclosed position snippet =>
    "unclosed environment variable reference starting at position " ++ toString position ++
      ": $\x7b" ++ snippet ++ "..."

namespace Interpolation

/-- Whether a name can start with the character. -/
def isNameStart (c : Char) : Bool :=
  c.isAlpha || c == '_'

/-- Whether the character can stand in a name. -/
def isNameChar (c : Char) : Bool :=
  c.isAlpha || c.isDigit || c == '_'

/-- Check the name of a variable. -/
def checkName (name : List Char) : Except ExpandError Unit :=
  match name with
  | [] => .error .emptyName
  | first :: _ =>
    if !isNameStart first then .error (.badStart (String.ofList name))
    else match name.find? fun c => !isNameChar c with
      | some c => .error (.badCharacter (String.ofList name) c)
      | none => .ok ()

/-- What stands for a reference. -/
def resolve (lookup : String → Option String) (reference : Reference) :
    Except ExpandError (List Char) := do
  checkName reference.name
  let name := String.ofList reference.name
  match reference.default, lookup name with
  | none, none => throw (.unset name)
  | none, some value => return value.toList
  | some default, none => return default
  | some default, some value => return (if value.isEmpty then default else value.toList)

/-- What stands for a row of pieces; the first reference that fails decides. -/
def expandPieces (lookup : String → Option String) : List Piece → Except ExpandError (List Char)
  | [] => .ok []
  | .plain c :: rest => do
    let expanded ← expandPieces lookup rest
    return c :: expanded
  | .reference reference :: rest => do
    let value ← resolve lookup reference
    let expanded ← expandPieces lookup rest
    return value ++ expanded

/-- The character of a piece that is one. -/
def Piece.plain? : Piece → Option Char
  | .plain c => some c
  | .reference _ => none

/-- The characters after the last reference. -/
def tail (pieces : List Piece) : List Char :=
  (pieces.reverse.takeWhile fun piece => piece.plain?.isSome).reverse.filterMap Piece.plain?

/-- What stands before and after the first opening of a reference. -/
def cutOpening? : List Char → Option (List Char × List Char)
  | [] => none
  | '$' :: '\x7b' :: rest => some ([], rest)
  | c :: rest => (cutOpening? rest).map fun (before, after) => (c :: before, after)

/-- The count of bytes of a text. -/
def bytes (text : List Char) : Nat :=
  (String.ofList text).utf8ByteSize

/-- The count of characters that messages show of an opening that never closes. -/
def snippetLength : Nat := 20

/-- Check that no reference opens after the last one. -/
def checkTail (text : List Char) (tail : List Char) : Except ExpandError Unit :=
  match cutOpening? tail with
  | none => .ok ()
  | some (before, after) =>
    .error (.unclosed (bytes text - bytes tail + bytes before)
      (String.ofList (after.take snippetLength)))

end Interpolation

open Interpolation in
/-- The text with the values of variables in place of the references to them. -/
def expand (lookup : String → Option String) (text : String) : Except ExpandError String := do
  let pieces := pieces text.toList
  let expanded ← expandPieces lookup pieces
  checkTail text.toList (tail pieces)
  return String.ofList expanded

end ContainerCert.Config
