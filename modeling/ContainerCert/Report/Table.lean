import ContainerCert.Report.Junit

/-!
# Results as a table

A summary for people: a heading with the verdict, a line about the image, and a table with a row
for every check in the order passed, failed, errors. Bars and backquotes in free text get a
backslash in front.
-/

namespace ContainerCert.Report.Table

/-- A character in a cell. -/
def escapeChar (c : Char) : List Char :=
  match c with
  | '|' => ['\\', '|']
  | '\x60' => ['\\', '\x60']
  | _ => [c]

/-- A text in a cell. -/
def escape (text : String) : String :=
  String.ofList (text.toList.flatMap escapeChar)

/-- A text between backquotes. -/
def code (text : String) : String :=
  "\x60" ++ escape text ++ "\x60"

/-- The word for what became of a check. -/
def outcomeWord : Outcome → String
  | .passed => "PASSED"
  | .failed => "FAILED"
  | .errored => "ERROR"

/-- The details of a check: its reason, or its description where there is no reason. -/
def details (entry : Entry) : String :=
  escape (if entry.reason.isEmpty then entry.description else entry.reason)

/-- The row of a check. -/
def row (outcome : Outcome) (entry : Entry) : String :=
  "| " ++ outcomeWord outcome ++ " | " ++ code entry.name ++ " | " ++
    toString entry.elapsed.toNat ++ "ms | " ++ details entry ++ " |\n"

/-- The rows of all checks under their header. -/
def table (groups : Groups) : String :=
  "| Result | Check | Elapsed | Details |\n" ++ "|---|---|---|---|\n" ++
    String.join (groups.tagged.map fun (outcome, entry) => row outcome entry) ++ "\n"

/-- The summary. -/
def render (results : Results) : String :=
  "## preflight: " ++ (if results.passed then "PASSED" else "FAILED") ++ "\n\n" ++
    "Image " ++ code results.image ++ " (platform: " ++ code results.platform ++ ", tested on: " ++
    results.testedOn ++ ")\n\n" ++
    (if results.groups.total = 0 then "No checks ran.\n" else table results.groups)

end ContainerCert.Report.Table
