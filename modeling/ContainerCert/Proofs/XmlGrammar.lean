import ContainerCert.Text.Cut
import Mathlib.Data.List.Basic

/-!
# The grammar of XML documents

A document is a declaration and one element, which holds texts and other elements. The grammar is
that of XML 1.0 for documents without comments, sections and types of their own: the tags of an
element bear the same name, attributes stand in double quotes and have different names, and an
ampersand begins one of the five references that every document may use. Apart from the grammar, all
characters of a document have to be characters of XML, which are not all there are.
-/

namespace ContainerCert.Xml

/-- What stands in an element: a text, or an element with its attributes and what stands in it. -/
inductive Node where
  | text (content : String)
  | element (name : String) (attributes : List (String × String)) (content : List Node)

/-- The characters that may stand in a document. -/
def IsChar (c : Char) : Prop :=
  c = '\t' ∨ c = '\n' ∨ c = '\r' ∨ 0x20 ≤ c.toNat ∧ c.toNat ≠ 0xFFFE ∧ c.toNat ≠ 0xFFFF

instance (c : Char) : Decidable (IsChar c) :=
  inferInstanceAs (Decidable (_ ∨ _))

/-- Whether a name can start with the character. -/
def isNameStart (c : Char) : Bool :=
  c.isAlpha || c == '_' || c == ':'

/-- Whether the character can stand in a name. -/
def isNameChar (c : Char) : Bool :=
  isNameStart c || c.isDigit || c == '-' || c == '.'

/-- Whether the characters are the name of an element or attribute. -/
def isName : List Char → Bool
  | [] => false
  | c :: rest => isNameStart c && rest.all isNameChar

/-- The characters that every document may refer to, with the names they are referred to by. -/
def entities : List (Char × String) :=
  [('&', "amp"), ('<', "lt"), ('>', "gt"), ('"', "quot"), ('\'', "apos")]

/-- The characters that do not stand for themselves in a value between double quotes. -/
def valueStops : List Char := ['&', '<', '"']

/-- The characters that do not stand for themselves in a text. -/
def textStops : List Char := ['&', '<', '>']

/-- How characters are written: each stands for itself, where it may, or is referred to. -/
inductive Writes (stops : List Char) : List Char → List Char → Prop where
  | nil : Writes stops [] []
  | plain {c : Char} {value written : List Char} (hplain : c ∉ stops)
      (hrest : Writes stops value written) : Writes stops (c :: value) (c :: written)
  | reference {c : Char} {name : String} {value written : List Char}
      (hentity : (c, name) ∈ entities) (hrest : Writes stops value written) :
      Writes stops (c :: value) ('&' :: name.toList ++ ';' :: written)

/-- How attributes are written in a tag, each behind a blank. -/
inductive WritesAttributes : List (String × String) → List Char → Prop where
  | nil : WritesAttributes [] []
  | cons {name value : String} {written rest : List Char} {attributes : List (String × String)}
      (hname : isName name.toList = true) (hvalue : Writes valueStops value.toList written)
      (hrest : WritesAttributes attributes rest) :
      WritesAttributes ((name, value) :: attributes)
        (' ' :: name.toList ++ '=' :: '"' :: written ++ '"' :: rest)

/-- How a tag that opens is written between its brackets. -/
inductive WritesTag : String → List (String × String) → List Char → Prop where
  | mk {name : String} {attributes : List (String × String)} {written : List Char}
      (hname : isName name.toList = true) (hdistinct : (attributes.map Prod.fst).Nodup)
      (hattributes : WritesAttributes attributes written) :
      WritesTag name attributes (name.toList ++ written)

/-- The characters of a row of nodes. A text goes on up to the next tag; an element without content
may be written in one tag. -/
inductive Spells : List Node → List Char → Prop where
  | nil : Spells [] []
  | text {content : String} {written rest : List Char} {nodes : List Node} (hne : content ≠ "")
      (hcontent : Writes textStops content.toList written) (hends : ∀ c ∈ rest.head?, c = '<')
      (hrest : Spells nodes rest) : Spells (.text content :: nodes) (written ++ rest)
  | single {name : String} {attributes : List (String × String)} {written rest : List Char}
      {nodes : List Node} (htag : WritesTag name attributes written) (hrest : Spells nodes rest) :
      Spells (.element name attributes [] :: nodes) ('<' :: written ++ '/' :: '>' :: rest)
  | element {name : String} {attributes : List (String × String)} {written inner rest : List Char}
      {content nodes : List Node} (htag : WritesTag name attributes written)
      (hcontent : Spells content inner) (hrest : Spells nodes rest) :
      Spells (.element name attributes content :: nodes)
        ('<' :: written ++ '>' :: inner ++ '<' :: '/' :: name.toList ++ '>' :: rest)

/-- What a document begins with. -/
def declaration : List Char :=
  "<?xml version=\"1.0\" encoding=\"UTF-8\"?>".toList

/-- Whether a node is a text of blanks. -/
def Node.isBlank : Node → Bool
  | .text content => content.toList.all fun c => c ∈ [' ', '\t', '\n', '\r']
  | .element _ _ _ => false

/-- The one element of a document, with nothing but blanks around it. -/
def rootOf? (nodes : List Node) : Option Node :=
  match nodes.filter (!·.isBlank) with
  | [.element name attributes content] => some (.element name attributes content)
  | _ => none

/-- A text is a document: all its characters may stand in one, and they are the declaration and what
spells one element. -/
def WellFormed (text : String) : Prop :=
  (∀ c ∈ text.toList, IsChar c) ∧
    ∃ nodes written root, text.toList = declaration ++ written ∧ Spells nodes written ∧
      rootOf? nodes = some root

end ContainerCert.Xml
