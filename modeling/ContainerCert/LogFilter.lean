import ContainerCert.Text.Alphanumeric
import ContainerCert.Text.Blank
import ContainerCert.Text.Cut

/-!
# Filters of the log

A filter is a list of directives parted by commas. A directive is a level, or a target with or
without a span between brackets, a field of the span between braces, and a level behind an equals
sign. A directive that is not understood is told and passed over; the others count.
-/

namespace ContainerCert.LogFilter

open Text (cutFirst? isAlphanumeric isBlank splitAt trim)

/-- Why a directive is not understood. -/
inductive DirectiveError where
  | malformed
  | unknownLevel
  deriving DecidableEq, Repr

/-- The message of an error. -/
def DirectiveError.message : DirectiveError → String
  | .malformed => "invalid filter directive"
  | .unknownLevel =>
    "error parsing level filter: expected one of \"off\", \"error\", \"warn\", \"info\", " ++
      "\"debug\", \"trace\", or a number 0-5"

/-- The names of the levels. -/
def levelNames : List String :=
  ["off", "error", "warn", "info", "debug", "trace"]

/-- Whether a text is a number up to five; a plus sign may stand before it. -/
def isLevelNumber (text : List Char) : Bool :=
  let row := if text.head? = some '+' then text.drop 1 else text
  !row.isEmpty && row.all Char.isDigit &&
    decide (row.foldl (fun n c => 10 * n + (c.toNat - '0'.toNat)) 0 ≤ 5)

/-- Whether a text is a level: a number, a name in any case, or nothing. -/
def isLevel (text : List Char) : Bool :=
  text.isEmpty || isLevelNumber text || levelNames.contains (String.ofList (text.map Char.toLower))

/-- Whether a target may start with a character. -/
def startsTarget (c : Char) : Bool :=
  c == '-' || c == ':' || c == '_' || isAlphanumeric c

/-- A directive without the blanks around it; they count as parts of its level. -/
structure Directive where
  text : List Char
  hasBlanksBefore : Bool
  blanksAfter : List Char

namespace Directive

/-- The directive that is written in a text. -/
def ofText (text : List Char) : Directive :=
  ⟨trim text, text.head?.any isBlank, (text.reverse.takeWhile isBlank).reverse⟩

/-- What is wrong with the level of a directive. -/
def levelError? (directive : Directive) (level : List Char) : Option DirectiveError :=
  if !directive.hasBlanksBefore && isLevel (level ++ directive.blanksAfter) then none
  else some .unknownLevel

/-- What is wrong after the bracket that closes a span. -/
def errorAfterSpan? (directive : Directive) : List Char → Option DirectiveError
  | [] => none
  | '=' :: level => directive.levelError? level
  | _ => some .malformed

/-- What is wrong after the brace that opens a field. -/
def errorInField? (directive : Directive) (text : List Char) : Option DirectiveError :=
  match cutFirst? '\x7d' text with
  | some (_ :: _, ']' :: rest) => directive.errorAfterSpan? rest
  | _ => some .malformed

/-- What is wrong after the bracket that opens a span. -/
def errorInSpan? (directive : Directive) : List Char → Option DirectiveError
  | [] => some .malformed
  | ']' :: rest => directive.errorAfterSpan? rest
  | '\x7b' :: rest => directive.errorInField? rest
  | _ :: rest => directive.errorInSpan? rest

/-- What is wrong after the first character of a target. -/
def errorInTarget? (directive : Directive) : List Char → Option DirectiveError
  | [] => none
  | '=' :: level => directive.levelError? level
  | '[' :: rest => directive.errorInSpan? rest
  | _ :: rest => directive.errorInTarget? rest

/-- What is wrong with a directive. -/
def error? (directive : Directive) : Option DirectiveError :=
  match directive.text with
  | [] => some .malformed
  | '[' :: rest => directive.errorInSpan? rest
  | c :: rest => if startsTarget c then directive.errorInTarget? rest else some .malformed

end Directive

/-- A directive that is passed over. -/
structure Ignored where
  text : String
  error : DirectiveError
  deriving DecidableEq, Repr

/-- The message about a directive that is passed over. -/
def Ignored.message (ignored : Ignored) : String :=
  "ignoring \x60" ++ ignored.text ++ "\x60: " ++ ignored.error.message

/-- The directives of a filter that are passed over. -/
def ignored (filter : String) : List Ignored :=
  (splitAt ',' filter.toList).filterMap fun text =>
    if text.isEmpty then none
    else (Directive.ofText text).error?.map fun error => ⟨String.ofList text, error⟩

end ContainerCert.LogFilter
