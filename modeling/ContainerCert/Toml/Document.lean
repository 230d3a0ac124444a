import ContainerCert.Data.Record
import ContainerCert.Toml.Number
import ContainerCert.Toml.Table

/-!
# Documents in TOML

A document is read as a whole: it gives a tree, or nothing where any part of it leaves the grammar
or defines something twice. Only then are values taken out of the tree.
-/

namespace ContainerCert.Toml

open Data (Tree Fault Decoder)

mutual

/-- A value. The depth is how many more arrays and tables may stand inside one another, and the
fuel bounds the steps. -/
def value? : Nat → Nat → List Char → Option (Tree × List Char)
  | 0, _, _ => none
  | fuel + 1, depth, text =>
    match text with
    | [] => none
    | 't' :: 'r' :: 'u' :: 'e' :: rest => some (.boolean true, rest)
    | 'f' :: 'a' :: 'l' :: 's' :: 'e' :: rest => some (.boolean false, rest)
    | '[' :: rest =>
      match depth with
      | 0 => none
      | depth + 1 => (items? fuel depth rest).map fun (items, rest) => (.sequence items, rest)
    | '\x7b' :: rest =>
      match depth with
      | 0 => none
      | depth + 1 => do
        let (pairs, rest) ← firstPair? fuel depth rest
        let entries ← Entries.ofPairs pairs []
        return (.map (Node.entryTrees entries) none, rest)
    | c :: rest =>
      if c = '"' ∨ c = '\'' then
        (string? (c :: rest)).map fun (content, rest) => (.text content, rest)
      else number? (c :: rest)

/-- The items of an array up to its end; a comma may stand after the last one. -/
def items? : Nat → Nat → List Char → Option (List Tree × List Char)
  | 0, _, _ => none
  | fuel + 1, depth, text => do
    let text ← skipGaps false text
    match text with
    | ']' :: rest => return ([], rest)
    | text => do
      let (item, text) ← value? fuel depth text
      let text ← skipGaps false text
      match text with
      | ']' :: rest => return ([item], rest)
      | ',' :: rest => do
        let (items, rest) ← items? fuel depth rest
        return (item :: items, rest)
      | _ => none

/-- The pairs of a table within a line, from its start. -/
def firstPair? : Nat → Nat → List Char → Option (List ((List String × String) × Tree) × List Char)
  | 0, _, _ => none
  | fuel + 1, depth, text =>
    match skipBlanks text with
    | '\x7d' :: rest => some ([], rest)
    | text => pairs? fuel depth text

/-- The pairs of a table within a line, from one of them on. -/
def pairs? : Nat → Nat → List Char → Option (List ((List String × String) × Tree) × List Char)
  | 0, _, _ => none
  | fuel + 1, depth, text => do
    let (key, text) ← key? text
    match text with
    | '=' :: text => do
      let (value, text) ← value? fuel depth (skipBlanks text)
      match skipBlanks text with
      | '\x7d' :: rest => return ([(key, value)], rest)
      | ',' :: rest => do
        let (pairs, rest) ← pairs? fuel depth rest
        return ((key, value) :: pairs, rest)
      | _ => none
    | _ => none

end

/-- A header after its opening brackets. -/
def header? (listed : Bool) (text : List Char) : Option (Header × List Char) := do
  let ((path, key), text) ← key? text
  match listed, text with
  | false, ']' :: rest => return (⟨path, key, false⟩, ← restOfLine? rest)
  | true, ']' :: ']' :: rest => return (⟨path, key, true⟩, ← restOfLine? rest)
  | _, _ => none

/-- A key with its value, and the rest of their line. -/
def keyValue? (text : List Char) : Option (((List String × String) × Tree) × List Char) := do
  let (key, text) ← key? text
  match text with
  | '=' :: text => do
    let text := skipBlanks text
    let (value, text) ← value? (2 * text.length + 2) nestingLimit text
    return ((key, value), ← restOfLine? text)
  | _ => none

/-- Read the lines of a document; the fuel bounds how many there are. -/
def lines? : Nat → Tables → List Char → Option Tables
  | 0, _, _ => none
  | fuel + 1, tables, text =>
    match skipBlanks text with
    | [] => some tables
    | '[' :: '[' :: rest => do
      let (header, rest) ← header? true rest
      let tables ← tables.start header
      lines? fuel tables rest
    | '[' :: rest => do
      let (header, rest) ← header? false rest
      let tables ← tables.start header
      lines? fuel tables rest
    | c :: rest =>
      if c = '#' ∨ c = '\n' ∨ c = '\r' then do
        let rest ← restOfLine? (c :: rest)
        lines? fuel tables rest
      else do
        let (((path, key), value), rest) ← keyValue? (c :: rest)
        let tables ← tables.add path key value
        lines? fuel tables rest

/-- The text without the mark that may stand before a document. -/
def skipMark : List Char → List Char
  | '\ufeff' :: text => text
  | text => text

/-- The tree of a document. -/
def read? (text : String) : Option Tree := do
  let chars := skipMark text.toList
  let tables ← lines? (chars.length + 1) .empty chars
  let root ← tables.finish
  return .map (Node.entryTrees root) none

/-- Take a value out of a text. -/
def decodeText {α : Type} (decoder : Decoder α) (text : String) : Except Fault α :=
  match read? text with
  | none => .error .malformed
  | some tree => decoder tree

end ContainerCert.Toml
