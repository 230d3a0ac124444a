import ContainerCert.Data.Tree
import ContainerCert.Text.Quoted

/-!
# Why a document does not give a value

A document may leave the grammar of its format, or it may follow it and say something else than
what is asked for. Each way of the second kind has its own message.
-/

namespace ContainerCert.Data

/-- The kind of value that was met, as messages name it. -/
inductive Found where
  | null
  | boolean (value : Bool)
  | integer (value : Int)
  | floating (shown : String)
  | text (value : String)
  | sequence
  | map
  deriving DecidableEq, Repr

/-- How messages name a value that was met. -/
def Found.message : Found → String
  | .null => "null"
  | .boolean value => "boolean \x60" ++ (if value then "true" else "false") ++ "\x60"
  | .integer value => "integer \x60" ++ toString value ++ "\x60"
  | .floating shown => "floating point \x60" ++ shown ++ "\x60"
  | .text value => "string " ++ Text.quote value
  | .sequence => "sequence"
  | .map => "map"

/-- A way in which a readable document does not give the value asked for. -/
inductive Mismatch where
  | missingField (name : String)
  | duplicateField (name : String)
  | unknownField (name : String) (known : List String)
  | unknownVariant (name : String) (known : List String)
  | invalidType (found : Found) (expected : String)
  | invalidValue (found : Found) (expected : String)
  | invalidLength (length : Nat) (expected : String)
  /-- A sequence with more items than are asked for, by the count of all its items. -/
  | surplusItems (length : Nat)
  deriving DecidableEq, Repr

/-- A name between backquotes. -/
def backquoted (name : String) : String :=
  "\x60" ++ name ++ "\x60"

/-- A list of names between backquotes, parted by commas. -/
def oneOf (names : List String) : String :=
  "one of " ++ ", ".intercalate (names.map backquoted)

/-- The message of a mismatch. -/
def Mismatch.message : Mismatch → String
  | .missingField name => "missing field " ++ backquoted name
  | .duplicateField name => "duplicate field " ++ backquoted name
  | .unknownField name known => "unknown field " ++ backquoted name ++ ", expected " ++ oneOf known
  | .unknownVariant name known =>
    "unknown variant " ++ backquoted name ++ ", expected " ++ oneOf known
  | .invalidType found expected => "invalid type: " ++ found.message ++ ", expected " ++ expected
  | .invalidValue found expected => "invalid value: " ++ found.message ++ ", expected " ++ expected
  | .invalidLength length expected =>
    "invalid length " ++ toString length ++ ", expected " ++ expected
  | .surplusItems length =>
    "invalid length " ++ toString length ++ ", expected fewer elements in array"

/-- Why a document does not give a value: it leaves the grammar, or it says something else. -/
inductive Fault where
  | malformed
  | mismatch (cause : Mismatch)
  deriving DecidableEq, Repr

/-- The same fault where the value stands in a text: a text that goes on where its sequence should
end leaves the grammar there. -/
def Fault.inText : Fault → Fault
  | .mismatch (.surplusItems _) => .malformed
  | fault => fault

/-- The fault of a value that is not of the kind asked for. -/
def Tree.reject (expected : String) : Tree → Fault
  | .null => .mismatch (.invalidType .null expected)
  | .boolean value => .mismatch (.invalidType (.boolean value) expected)
  | .natural value => .mismatch (.invalidType (.integer value) expected)
  | .negative value => .mismatch (.invalidType (.integer (-value)) expected)
  | .floating shown => .mismatch (.invalidType (.floating shown) expected)
  | .text value => .mismatch (.invalidType (.text value) expected)
  | .sequence _ => .mismatch (.invalidType .sequence expected)
  | .map _ _ => .mismatch (.invalidType .map expected)
  | .garbled => .malformed
  | .unreadable => .malformed

end ContainerCert.Data
