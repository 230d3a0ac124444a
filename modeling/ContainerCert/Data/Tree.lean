/-!
# What a document says

A text in JSON or TOML is read into a `Tree`. The tree also shows how far reading came: a part
that could not be read stands in it as `unreadable`, so that whoever takes values out of the tree
in document order meets the first problem first, be it a value of the wrong kind or the end of
what follows the grammar.
-/

namespace ContainerCert.Data

/-- A value as written in a document, or the mark of a part that could not be read. -/
inductive Tree where
  | null
  | boolean (value : Bool)
  /-- A whole number that is not negative. -/
  | natural (value : Nat)
  /-- The whole number `-value`. -/
  | negative (value : Nat)
  /-- A number of double precision, by the text that messages show for it. -/
  | floating (shown : String)
  | text (value : String)
  | sequence (items : List Tree)
  /-- Entries in document order up to the first place where no key could be read; `stray` is what
  stands there. -/
  | map (entries : List (String × Tree)) (stray : Option Tree)
  /-- A string or number of the right form that has no value; it can only be passed over. -/
  | garbled
  /-- The place where the text leaves the grammar. -/
  | unreadable

namespace Tree

/-- Whether what stands in the place of a key, if anything, can be passed over: a key of the right
form that has no value can, when the text goes on as the grammar asks. -/
def strayWhole : Option Tree → Bool
  | none => true
  | some .garbled => true
  | some _ => false

mutual

/-- Whether the text follows the grammar throughout the value, so that it can be passed over. -/
def isWhole : Tree → Bool
  | .sequence items => allWhole items
  | .map entries stray => entriesWhole entries && strayWhole stray
  | .unreadable => false
  | _ => true

/-- Whether every item can be passed over. -/
def allWhole : List Tree → Bool
  | [] => true
  | item :: items => isWhole item && allWhole items

/-- Whether the value of every entry can be passed over. -/
def entriesWhole : List (String × Tree) → Bool
  | [] => true
  | (_, value) :: entries => isWhole value && entriesWhole entries

end

end Tree
end ContainerCert.Data
