import ContainerCert.Text.Hex

/-!
# JSON values

The values the program writes as JSON, and their two written forms. The compact form has no blank
characters between tokens. The pretty form puts every item and field on a line of its own,
indented by two blanks for each level. Strings are escaped as little as JSON allows.
-/

namespace ContainerCert

/-- A JSON value; the fields of an object are in the order in which they are written. -/
inductive Json where
  | null
  | boolean (value : Bool)
  | natural (value : Nat)
  /-- The number `mantissa / 10 ^ places`, written with exactly that many places. -/
  | decimal (mantissa places : Nat)
  | text (value : String)
  | array (items : List Json)
  | object (fields : List (String × Json))

namespace Json

/-- A character inside a string: quote, backslash and controls are escaped, all else stands for
itself. -/
def escapeChar (c : Char) : List Char :=
  match c with
  | '"' => ['\\', '"']
  | '\\' => ['\\', '\\']
  | '\x08' => ['\\', 'b']
  | '\x0c' => ['\\', 'f']
  | '\n' => ['\\', 'n']
  | '\r' => ['\\', 'r']
  | '\t' => ['\\', 't']
  | _ =>
    if c.toNat < 0x20 then
      ['\\', 'u', '0', '0', Text.Hex.digit (c.toNat / 16), Text.Hex.digit (c.toNat % 16)]
    else [c]

/-- A string with its quotes. -/
def string (value : String) : List Char :=
  '"' :: value.toList.flatMap escapeChar ++ ['"']

/-- The decimal digits of a number. -/
def digits (n : Nat) : List Char :=
  Nat.toDigits 10 n

/-- A number with exactly the given count of places. -/
def decimalText (mantissa places : Nat) : List Char :=
  let fraction := digits (mantissa % Nat.pow 10 places)
  digits (mantissa / Nat.pow 10 places) ++
    '.' :: List.replicate (places - fraction.length) '0' ++ fraction

/-- A value that has no parts. -/
def scalar : Json → List Char
  | .null => "null".toList
  | .boolean true => "true".toList
  | .boolean false => "false".toList
  | .natural value => digits value
  | .decimal mantissa places => decimalText mantissa places
  | .text value => string value
  | .array _ => "[]".toList
  | .object _ => ['\x7b', '\x7d']

mutual

/-- The compact form. -/
def compact : Json → List Char
  | .array items => '[' :: compactItems items ++ [']']
  | .object fields => '\x7b' :: compactFields fields ++ ['\x7d']
  | value => scalar value

/-- Items in compact form, parted by commas. -/
def compactItems : List Json → List Char
  | [] => []
  | [item] => compact item
  | item :: items => compact item ++ ',' :: compactItems items

/-- Fields in compact form, parted by commas. -/
def compactFields : List (String × Json) → List Char
  | [] => []
  | [(name, value)] => string name ++ ':' :: compact value
  | (name, value) :: fields => string name ++ ':' :: compact value ++ ',' :: compactFields fields

end

/-- The start of a line at a level. -/
def newLine (level : Nat) : List Char :=
  '\n' :: List.replicate (2 * level) ' '

mutual

/-- The pretty form at a level. -/
def prettyAt (level : Nat) : Json → List Char
  | .array [] => ['[', ']']
  | .array items => '[' :: prettyItems (level + 1) items ++ newLine level ++ [']']
  | .object [] => ['\x7b', '\x7d']
  | .object fields => '\x7b' :: prettyFields (level + 1) fields ++ newLine level ++ ['\x7d']
  | value => scalar value

/-- Items in pretty form, each on a line of its own. -/
def prettyItems (level : Nat) : List Json → List Char
  | [] => []
  | [item] => newLine level ++ prettyAt level item
  | item :: items => newLine level ++ prettyAt level item ++ ',' :: prettyItems level items

/-- Fields in pretty form, each on a line of its own. -/
def prettyFields (level : Nat) : List (String × Json) → List Char
  | [] => []
  | [(name, value)] => newLine level ++ string name ++ ':' :: ' ' :: prettyAt level value
  | (name, value) :: fields =>
    newLine level ++ string name ++ ':' :: ' ' :: prettyAt level value ++
      ',' :: prettyFields level fields

end

/-- The pretty form. -/
def pretty (value : Json) : List Char :=
  prettyAt 0 value

/-- The compact form as a text. -/
def compactText (value : Json) : String :=
  String.ofList (compact value)

/-- The pretty form as a text. -/
def prettyText (value : Json) : String :=
  String.ofList (pretty value)

end Json
end ContainerCert
