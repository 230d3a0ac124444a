import ContainerCert.Data.Fault

/-!
# Taking values out of a document

A `Decoder` takes a value out of a tree. The decoders of the plain kinds come first; a `Record`
describes a structure by its fields and decodes it from a map with those fields as keys or from
a sequence of them in the order of the description. The faults are those met first in document
order; a field that is missing is noticed at the end.
-/

namespace ContainerCert.Data

/-- A way to take a value out of a tree. -/
abbrev Decoder (α : Type) := Tree → Except Fault α

namespace Decoder

/-- A text. -/
def text : Decoder String
  | .text value => .ok value
  | tree => .error (tree.reject "a string")

/-- A truth value. -/
def boolean : Decoder Bool
  | .boolean value => .ok value
  | tree => .error (tree.reject "a boolean")

/-- A whole number of 64 bits that is not negative. -/
def unsigned : Decoder UInt64
  | .natural value =>
    if value < UInt64.size then .ok (UInt64.ofNat value)
    else .error (.mismatch (.invalidValue (.integer value) "u64"))
  | .negative value => .error (.mismatch (.invalidValue (.integer (-value)) "u64"))
  | tree => .error (tree.reject "u64")

/-- A value, or null for none. -/
def optional {α : Type} (decode : Decoder α) : Decoder (Option α)
  | .null => .ok none
  | tree => (decode tree).map some

/-- The values of a list of trees; the fault is that of the first tree that has one. -/
def all {α : Type} (decode : Decoder α) : List Tree → Except Fault (List α)
  | [] => .ok []
  | tree :: trees => do
    let value ← decode tree
    let values ← all decode trees
    return value :: values

/-- A list of values. -/
def list {α : Type} (decode : Decoder α) : Decoder (List α)
  | .sequence items => all decode items
  | tree => .error (tree.reject "a sequence")

end Decoder

/-- One field of a structure: its name, whether it must be given, and how its value is taken out
of the document and put into the structure. -/
structure RecordField (α : Type) where
  name : String
  required : Bool
  read : Tree → Except Fault (α → α)

/-- A field that must be given. -/
def RecordField.must {α β : Type} (name : String) (decode : Decoder β) (put : β → α → α) :
    RecordField α :=
  ⟨name, true, fun tree => (decode tree).map put⟩

/-- A field that keeps its initial value when it is not given. -/
def RecordField.may {α β : Type} (name : String) (decode : Decoder β) (put : β → α → α) :
    RecordField α :=
  ⟨name, false, fun tree => (decode tree).map put⟩

/-- A structure by its fields, in the order in which a sequence lists them. A closed record
refuses keys it does not know; any other passes them over. -/
structure Record (α : Type) where
  name : String
  initial : α
  fields : List (RecordField α)
  closed : Bool

namespace Record

variable {α : Type}

/-- Read the entries of a map in document order; also returns the names that were given. -/
def readEntries (record : Record α) :
    List (String × Tree) → List String → α → Except Fault (α × List String)
  | [], given, value => .ok (value, given)
  | (key, tree) :: entries, given, value =>
    match record.fields.find? (·.name == key) with
    | some field =>
      if key ∈ given then .error (.mismatch (.duplicateField key))
      else do
        let put ← field.read tree
        readEntries record entries (key :: given) (put value)
    | none =>
      if record.closed then
        .error (.mismatch (.unknownField key (record.fields.map (·.name))))
      else if tree.isWhole then readEntries record entries given value
      else .error .malformed

/-- Read a map; the first field, in the order of the description, that must be given and is not
makes the fault when the map ends. -/
def readMap (record : Record α) (entries : List (String × Tree)) (stray : Option Tree) :
    Except Fault α := do
  let (value, given) ← record.readEntries entries [] record.initial
  if stray.isSome then throw .malformed
  match record.fields.find? fun field => field.required && !given.contains field.name with
  | some field => throw (.mismatch (.missingField field.name))
  | none => return value

/-- How messages name a sequence that has as many items as the record has fields. -/
def asSequence (record : Record α) : String :=
  "struct " ++ record.name ++ " with " ++ toString record.fields.length ++ " elements"

/-- Read the items of a sequence as the values of the fields, in order. -/
def readItems (record : Record α) : List (RecordField α) → Nat → List Tree → α → Except Fault α
  | [], _, [], value => .ok value
  | [], index, tree :: trees, _ =>
    .error (.mismatch (.surplusItems (index + (tree :: trees).length)))
  | field :: fields, index, [], value =>
    if field.required then .error (.mismatch (.invalidLength index record.asSequence))
    else readItems record fields (index + 1) [] value
  | field :: fields, index, tree :: trees, value => do
    let put ← field.read tree
    readItems record fields (index + 1) trees (put value)

/-- Take the structure out of a map or a sequence. -/
def decode (record : Record α) : Decoder α
  | .map entries stray => record.readMap entries stray
  | .sequence items => record.readItems record.fields 0 items record.initial
  | tree => .error (tree.reject ("struct " ++ record.name))

end Record
end ContainerCert.Data
