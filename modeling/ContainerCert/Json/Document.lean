import ContainerCert.Data.Record
import ContainerCert.Json.Number
import ContainerCert.Text.Hex

/-!
# Documents in JSON

A text is read into a tree and a note whether nothing but blanks follows it. Reading stops where
the text leaves the grammar, and the tree shows that place; so a decoder meets a value of the
wrong kind before a break in the grammar that comes later in the text.
-/

namespace ContainerCert.Json

open Data (Tree Fault Decoder)

/-- The blanks of JSON. -/
def isBlank (c : Char) : Bool :=
  c == ' ' || c == '\t' || c == '\n' || c == '\r'

/-- The text without the blanks at its start. -/
def skipBlanks (chars : List Char) : List Char :=
  chars.dropWhile isBlank

/-- A piece of a string: a character that stands there, or a unit of 16 bits given by number. -/
inductive Piece where
  | plain (c : Char)
  | unit (n : Nat)
  deriving DecidableEq, Repr

/-- The character of a short escape. -/
def shortEscape? : Char → Option Char
  | '"' => some '"'
  | '\\' => some '\\'
  | '/' => some '/'
  | 'b' => some '\x08'
  | 'f' => some '\x0c'
  | 'n' => some '\n'
  | 'r' => some '\r'
  | 't' => some '\t'
  | _ => none

/-- The pieces of a string up to its closing quote, and the text after that; none when the text
leaves the grammar before. -/
def stringPieces? : List Char → Option (List Piece × List Char)
  | [] => none
  | '"' :: rest => some ([], rest)
  | '\\' :: 'u' :: a :: b :: c :: d :: rest => do
    let n ← Text.Hex.number? [a, b, c, d]
    let (pieces, rest) ← stringPieces? rest
    return (.unit n :: pieces, rest)
  | '\\' :: c :: rest => do
    let c ← shortEscape? c
    let (pieces, rest) ← stringPieces? rest
    return (.plain c :: pieces, rest)
  | c :: rest =>
    if c.toNat < 0x20 ∨ c = '\\' then none
    else do
      let (pieces, rest) ← stringPieces? rest
      return (.plain c :: pieces, rest)

/-- Whether a unit is the first half of a pair. -/
def isLeading (n : Nat) : Bool :=
  0xD800 ≤ n && n < 0xDC00

/-- Whether a unit is the second half of a pair. -/
def isTrailing (n : Nat) : Bool :=
  0xDC00 ≤ n && n < 0xE000

/-- The character that a pair of units stands for. -/
def pairedChar (leading trailing : Nat) : Char :=
  Char.ofNat ((leading - 0xD800) * 0x400 + (trailing - 0xDC00) + 0x10000)

/-- The characters of a string; none when half a pair stands alone. -/
def charsOf? : List Piece → Option (List Char)
  | [] => some []
  | .plain c :: pieces => (charsOf? pieces).map (c :: ·)
  | .unit n :: pieces =>
    if isTrailing n then none
    else if isLeading n then
      match pieces with
      | .unit m :: pieces =>
        if isTrailing m then (charsOf? pieces).map (pairedChar n m :: ·) else none
      | _ => none
    else (charsOf? pieces).map (Char.ofNat n :: ·)

/-- The text of a string; none when half a pair stands alone. -/
def textOf? (pieces : List Piece) : Option String :=
  (charsOf? pieces).map String.ofList

mutual

/-- Read a value. With it comes the text after it; none when reading had to stop inside. -/
def readValue : Nat → List Char → Tree × Option (List Char)
  | 0, _ => (.unreadable, none)
  | fuel + 1, chars =>
    match skipBlanks chars with
    | 'n' :: 'u' :: 'l' :: 'l' :: rest => (.null, some rest)
    | 't' :: 'r' :: 'u' :: 'e' :: rest => (.boolean true, some rest)
    | 'f' :: 'a' :: 'l' :: 's' :: 'e' :: rest => (.boolean false, some rest)
    | '"' :: rest =>
      match stringPieces? rest with
      | some (pieces, rest) =>
        match textOf? pieces with
        | some value => (.text value, some rest)
        | none => (.garbled, some rest)
      | none => (.unreadable, none)
    | '[' :: rest =>
      match skipBlanks rest with
      | ']' :: rest => (.sequence [], some rest)
      | rest =>
        let (items, rest) := readItems fuel rest
        (.sequence items, rest)
    | '\x7b' :: rest =>
      match skipBlanks rest with
      | '\x7d' :: rest => (.map [] none, some rest)
      | rest =>
        let (entries, stray, rest) := readEntries fuel rest
        (.map entries stray, rest)
    | chars =>
      match Numeral.read? chars with
      | some (number, rest) => (number.tree, some rest)
      | none => (.unreadable, none)

/-- Read the items of a sequence up to its end. -/
def readItems : Nat → List Char → List Tree × Option (List Char)
  | 0, _ => ([.unreadable], none)
  | fuel + 1, chars =>
    match readValue fuel chars with
    | (item, none) => ([item], none)
    | (item, some rest) =>
      match skipBlanks rest with
      | ']' :: rest => ([item], some rest)
      | ',' :: rest =>
        let (items, rest) := readItems fuel rest
        (item :: items, rest)
      | _ => ([item, .unreadable], none)

/-- Read the entries of a map up to its end, with what stands where no key could be read. -/
def readEntries : Nat → List Char → List (String × Tree) × Option Tree × Option (List Char)
  | 0, _ => ([], some .unreadable, none)
  | fuel + 1, chars =>
    match skipBlanks chars with
    | '"' :: rest =>
      match stringPieces? rest with
      | none => ([], some .unreadable, none)
      | some (pieces, rest) =>
        let (value, others, stray, rest) := readEntry fuel rest
        match textOf? pieces with
        | some key => ((key, value) :: others, stray, rest)
        | none =>
          let goesOn := value.isWhole && Tree.entriesWhole others && Tree.strayWhole stray
          ([], some (if goesOn then .garbled else .unreadable), rest)
    | chars => ([], some (readValue fuel chars).1, none)

/-- Read what follows a key: its value and the entries after it. -/
def readEntry :
    Nat → List Char → Tree × List (String × Tree) × Option Tree × Option (List Char)
  | 0, _ => (.unreadable, [], none, none)
  | fuel + 1, chars =>
    match skipBlanks chars with
    | ':' :: rest =>
      match readValue fuel rest with
      | (value, none) => (value, [], none, none)
      | (value, some rest) =>
        match skipBlanks rest with
        | '\x7d' :: rest => (value, [], none, some rest)
        | ',' :: rest => (value, readEntries fuel rest)
        | _ => (value, [], some .unreadable, none)
    | _ => (.unreadable, [], none, none)

end

/-- A text as far as it could be read. -/
structure Document where
  root : Tree
  /-- Whether nothing but blanks follows the value. -/
  complete : Bool

namespace Document

/-- Read a text. Every step of reading that does not consume a character is followed by one that
does, so the fuel lasts. -/
def ofChars (chars : List Char) : Document :=
  match readValue (3 * chars.length + 3) chars with
  | (root, none) => ⟨root, false⟩
  | (root, some rest) => ⟨root, (skipBlanks rest).isEmpty⟩

/-- Read a text. -/
def ofText (source : String) : Document :=
  ofChars source.toList

/-- Take a value out of the document; what follows it counts only when that went well. -/
def decode {α : Type} (document : Document) (decoder : Decoder α) : Except Fault α := do
  let value ← (decoder document.root).mapError Fault.inText
  if document.complete then return value else throw .malformed

end Document

/-- Take a value out of a text. -/
def decodeText {α : Type} (decoder : Decoder α) (source : String) : Except Fault α :=
  (Document.ofText source).decode decoder

end ContainerCert.Json
