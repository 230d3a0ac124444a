import ContainerCert.Report.Response
import ContainerCert.Report.Table

/-!
# Formats of results

Results are written in one of three formats, chosen by name: the JSON document for users, JUnit
XML, or a table for people. A `Formatter` is whatever turns results into the bytes of a file.
-/

namespace ContainerCert.Report

/-- A format of results. -/
inductive Format where
  | json
  | junit
  | table
  deriving DecidableEq, Repr

/-- Why results are not formatted. -/
inductive FormatError where
  | unknown (name : String)
  | failed (formatter cause : String)
  /-- The times of the checks add up to more than 64 bits hold. No one is told of this: the program
  stops where it is. -/
  | overflow
  deriving DecidableEq, Repr

namespace Format

/-- The formats, in the order in which messages list them. -/
def all : List Format :=
  [.json, .junit, .table]

/-- The name that selects the format. -/
def name : Format → String
  | .json => "json"
  | .junit => "junitxml"
  | .table => "text"

/-- The extension of files in the format. -/
def extension : Format → String
  | .json => "json"
  | .junit => "xml"
  | .table => "txt"

/-- The format of a name. -/
def ofName (name : String) : Except FormatError Format :=
  match all.find? (·.name == name) with
  | some format => .ok format
  | none => .error (.unknown name)

/-- The JSON document for users, with a line end. -/
def renderJson (results : Results) : String :=
  (Response.ofResults results .this).toJson.prettyText ++ "\n"

/-- Results in the format, unless a sum overflows. -/
def render : Format → Results → Option String
  | .json, results => some (renderJson results)
  | .junit, results => Junit.render results
  | .table, results => some (Table.render results)

end Format

/-- The message of a format error. -/
def FormatError.message : FormatError → String
  | .unknown name =>
    "unknown formatter " ++ Text.quote name ++ " (expected one of: " ++
      ", ".intercalate (Format.all.map Format.name) ++ ")"
  | .failed formatter cause => formatter ++ " formatter failed: " ++ cause
  | .overflow => "attempt to add with overflow"

/-- What turns results into the bytes of a file. -/
structure Formatter where
  name : String
  extension : String
  render : Results → Except FormatError ByteArray

/-- A format as a formatter; it fails for an overflow only. -/
def Format.formatter (format : Format) : Formatter where
  name := format.name
  extension := format.extension
  render results :=
    match format.render results with
    | some text => .ok text.toUTF8
    | none => .error .overflow

end ContainerCert.Report
