import ContainerCert.Text.Hex

/-!
# The characters and words of TOML

Blanks, line ends, comments, keys and strings. A reader takes what it reads from the start of a
text and gives the rest with it; it gives nothing where the text leaves the grammar.
-/

namespace ContainerCert.Toml

/-- A reader of an `α` at the start of a text. -/
abbrev Reader (α : Type) := List Char → Option (α × List Char)

/-- The blanks within a line. -/
def isBlank (c : Char) : Bool :=
  c == ' ' || c == '\t'

/-- The text without the blanks at its start. -/
def skipBlanks (text : List Char) : List Char :=
  text.dropWhile isBlank

/-- The characters that may stand in comments and strings: all but the controls, and the tab. -/
def isTextChar (c : Char) : Bool :=
  c == '\t' || (decide (0x20 ≤ c.toNat) && c.toNat != 0x7F)

/-- The text after a line end. -/
def lineEnd? : List Char → Option (List Char)
  | '\n' :: rest => some rest
  | '\r' :: '\n' :: rest => some rest
  | _ => none

/-- The text without a comment at its start. -/
def skipComment : List Char → List Char
  | '#' :: rest => rest.dropWhile isTextChar
  | text => text

/-- The text after the rest of a line, which holds nothing but blanks and a comment. -/
def restOfLine? (text : List Char) : Option (List Char) :=
  match skipComment (skipBlanks text) with
  | [] => some []
  | text => lineEnd? text

/-- The text without blanks, line ends and comments at its start; a comment there must have a line
end. -/
def skipGaps (inComment : Bool) : List Char → Option (List Char)
  | [] => if inComment then none else some []
  | '\r' :: '\n' :: rest => skipGaps false rest
  | c :: rest =>
    if c = '\n' then skipGaps false rest
    else if inComment then
      if isTextChar c then skipGaps true rest else none
    else if isBlank c then skipGaps false rest
    else if c = '#' then skipGaps true rest
    else some (c :: rest)

/-- The character of a short escape. -/
def shortEscape? : Char → Option Char
  | 'b' => some '\x08'
  | 'f' => some '\x0c'
  | 'n' => some '\n'
  | 'r' => some '\r'
  | 't' => some '\t'
  | '"' => some '"'
  | '\\' => some '\\'
  | _ => none

/-- The character with the number that hexadecimal digits stand for. -/
def escapedChar? (row : List Char) : Option Char := do
  let n ← Text.Hex.number? row
  if n.isValidChar then return Char.ofNat n else none

/-- An escape after its backslash. -/
def escape? : Reader Char
  | 'u' :: a :: b :: c :: d :: rest => (escapedChar? [a, b, c, d]).map (·, rest)
  | 'U' :: a :: b :: c :: d :: e :: f :: g :: h :: rest =>
    (escapedChar? [a, b, c, d, e, f, g, h]).map (·, rest)
  | c :: rest => (shortEscape? c).map (·, rest)
  | [] => none

/-- A string in double quotes, after its first quote. -/
def basicString? : Nat → Reader (List Char)
  | 0, _ => none
  | _ + 1, [] => none
  | fuel + 1, c :: rest =>
    if c = '"' then some ([], rest)
    else if c = '\\' then do
      let (c, rest) ← escape? rest
      let (chars, rest) ← basicString? fuel rest
      return (c :: chars, rest)
    else if isTextChar c then do
      let (chars, rest) ← basicString? fuel rest
      return (c :: chars, rest)
    else none

/-- A string in single quotes, after its first quote. -/
def literalString? : Reader (List Char)
  | [] => none
  | c :: rest =>
    if c = '\'' then some ([], rest)
    else if isTextChar c then do
      let (chars, rest) ← literalString? rest
      return (c :: chars, rest)
    else none

/-- The quotes that belong to a string whose closing quotes have just been read: at most two more
may follow. -/
def lastQuotes (quote : Char) : List Char → List Char × List Char
  | a :: b :: rest =>
    if a = quote ∧ b = quote then ([a, b], rest)
    else if a = quote then ([a], b :: rest)
    else ([], a :: b :: rest)
  | [a] => if a = quote then ([a], []) else ([], [a])
  | [] => ([], [])

/-- Whether a backslash with this text after it joins lines. -/
def joinsLines (text : List Char) : Bool :=
  (lineEnd? (skipBlanks text)).isSome

/-- The text without blanks and line ends at its start. -/
def skipSpace : List Char → List Char
  | '\r' :: '\n' :: rest => skipSpace rest
  | c :: rest => if isBlank c || c == '\n' then skipSpace rest else c :: rest
  | [] => []

/-- A string in three double quotes, after them. A line end in it is one character, and a backslash
before a line end takes the blanks and line ends after it away. -/
def basicLines? : Nat → Reader (List Char)
  | 0, _ => none
  | _ + 1, [] => none
  | _ + 1, '"' :: '"' :: '"' :: rest => some (lastQuotes '"' rest)
  | fuel + 1, '\r' :: '\n' :: rest => do
    let (chars, rest) ← basicLines? fuel rest
    return ('\n' :: chars, rest)
  | fuel + 1, c :: rest =>
    if c = '\\' then
      if joinsLines rest then basicLines? fuel (skipSpace rest)
      else do
        let (c, rest) ← escape? rest
        let (chars, rest) ← basicLines? fuel rest
        return (c :: chars, rest)
    else if isTextChar c || c == '\n' then do
      let (chars, rest) ← basicLines? fuel rest
      return (c :: chars, rest)
    else none

/-- A string in three single quotes, after them. -/
def literalLines? : Reader (List Char)
  | [] => none
  | '\'' :: '\'' :: '\'' :: rest => some (lastQuotes '\'' rest)
  | '\r' :: '\n' :: rest => do
    let (chars, rest) ← literalLines? rest
    return ('\n' :: chars, rest)
  | c :: rest =>
    if isTextChar c || c == '\n' then do
      let (chars, rest) ← literalLines? rest
      return (c :: chars, rest)
    else none

/-- The text without a line end at its start. -/
def skipLineEnd (text : List Char) : List Char :=
  (lineEnd? text).getD text

/-- A string of any kind. -/
def string? : Reader String
  | '"' :: '"' :: '"' :: rest =>
    (basicLines? (rest.length + 1) (skipLineEnd rest)).map fun (chars, rest) =>
      (String.ofList chars, rest)
  | '\'' :: '\'' :: '\'' :: rest =>
    (literalLines? (skipLineEnd rest)).map fun (chars, rest) => (String.ofList chars, rest)
  | '"' :: rest =>
    (basicString? (rest.length + 1) rest).map fun (chars, rest) => (String.ofList chars, rest)
  | '\'' :: rest => (literalString? rest).map fun (chars, rest) => (String.ofList chars, rest)
  | _ => none

/-- The characters of keys without quotes. -/
def isKeyChar (c : Char) : Bool :=
  c.isAlpha || c.isDigit || c == '-' || c == '_'

/-- One part of a key: in quotes within a line, or bare. -/
def keyPart? : Reader String
  | '"' :: rest =>
    (basicString? (rest.length + 1) rest).map fun (chars, rest) => (String.ofList chars, rest)
  | '\'' :: rest => (literalString? rest).map fun (chars, rest) => (String.ofList chars, rest)
  | text =>
    match text.takeWhile isKeyChar with
    | [] => none
    | chars => some (String.ofList chars, text.dropWhile isKeyChar)

/-- The parts of a key with points between them, up to a greatest count. -/
def keyParts? : Nat → Reader (List String)
  | 0, _ => none
  | count + 1, text => do
    let (part, text) ← keyPart? (skipBlanks text)
    match skipBlanks text with
    | '.' :: rest => do
      let (parts, rest) ← keyParts? count rest
      return (part :: parts, rest)
    | rest => return ([part], rest)

/-- The greatest count of parts in a key, and the greatest depth of values. -/
def nestingLimit : Nat := 79

/-- A key: the parts before its last one, and the last one. -/
def key? (text : List Char) : Option ((List String × String) × List Char) := do
  let (parts, rest) ← keyParts? nestingLimit text
  let last ← parts.getLast?
  return ((parts.dropLast, last), rest)

end ContainerCert.Toml
