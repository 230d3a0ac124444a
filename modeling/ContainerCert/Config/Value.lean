import ContainerCert.Text.Summary

/-!
# Values of settings

A value is a truth value or a text, as its source gives it; what a key asks for is decided where
the value is used.
-/

namespace ContainerCert.Config

/-- A value as one source of settings gives it. -/
inductive Value where
  | switch (on : Bool)
  | text (content : String)
  deriving DecidableEq, Repr

namespace Value

/-- The value as a text. -/
def asText : Value → String
  | .switch on => Text.summaryBool on
  | .text content => content

/-- The value as developers see it. -/
def summary : Value → String
  | .switch on => Text.wrapped "Bool" (Text.summaryBool on)
  | .text content => Text.wrapped "Str" (Text.quote content)

/-- The spellings of yes and no. -/
def boolOfText? (text : String) : Option Bool :=
  if text ∈ ["1", "t", "T", "TRUE", "true", "True"] then some true
  else if text ∈ ["0", "f", "F", "FALSE", "false", "False"] then some false
  else none

/-- The value as a truth value. -/
def asBool? : Value → Option Bool
  | .switch on => some on
  | .text content => boolOfText? content

end Value
end ContainerCert.Config
