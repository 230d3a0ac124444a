import ContainerCert.Data.Record
import ContainerCert.Json.Basic

/-!
# Results of a run of checks

What the checks of one image gave: every check stands in one of three lists, for passed, failed
and those that could not be evaluated. Results are written as JSON objects with their fields in
a fixed order, and read back from objects or from arrays of the fields in the same order.
-/

namespace ContainerCert.Report

open Data (Decoder Record RecordField)

/-- What one check gave. -/
structure Entry where
  name : String
  description : String
  help : String
  /-- The milliseconds that the check took. -/
  elapsed : UInt64
  /-- Why the check did not pass; empty for one that did. -/
  reason : String
  deriving DecidableEq, Repr

namespace Entry

/-- The entry as JSON; an empty help or reason is left out. -/
def toJson (entry : Entry) : Json :=
  .object ([("name", .text entry.name), ("description", .text entry.description)] ++
    (if entry.help.isEmpty then [] else [("help", .text entry.help)]) ++
    [("elapsed_ms", .natural entry.elapsed.toNat)] ++
    (if entry.reason.isEmpty then [] else [("reason", .text entry.reason)]))

/-- The fields of an entry. -/
def record : Record Entry where
  name := "CheckResult"
  initial := ⟨"", "", "", 0, ""⟩
  closed := false
  fields := [
    .must "name" Decoder.text fun v entry => { entry with name := v },
    .must "description" Decoder.text fun v entry => { entry with description := v },
    .may "help" Decoder.text fun v entry => { entry with help := v },
    .must "elapsed_ms" Decoder.unsigned fun v entry => { entry with elapsed := v },
    .may "reason" Decoder.text fun v entry => { entry with reason := v }]

end Entry

/-- The entries of a run by what became of the checks. -/
structure Groups where
  passed : List Entry
  failed : List Entry
  errors : List Entry
  deriving DecidableEq, Repr

namespace Groups

/-- No entries. -/
def none : Groups := ⟨[], [], []⟩

/-- The number of checks. -/
def total (groups : Groups) : Nat :=
  groups.passed.length + groups.failed.length + groups.errors.length

/-- A list of entries as JSON. -/
def listJson (entries : List Entry) : Json :=
  .array (entries.map Entry.toJson)

/-- The three lists as fields of a JSON object. -/
def fields (groups : Groups) : List (String × Json) :=
  [("passed", listJson groups.passed), ("failed", listJson groups.failed),
    ("errors", listJson groups.errors)]

/-- The three lists as JSON. -/
def toJson (groups : Groups) : Json :=
  .object groups.fields

/-- A list of entries in a document. -/
def decodeList : Decoder (List Entry) :=
  Decoder.list Entry.record.decode

/-- The fields of the three lists, for a structure that holds them. -/
def recordFields {α : Type} (change : (Groups → Groups) → α → α) : List (RecordField α) := [
  .must "passed" decodeList fun v => change fun groups => { groups with passed := v },
  .must "failed" decodeList fun v => change fun groups => { groups with failed := v },
  .must "errors" decodeList fun v => change fun groups => { groups with errors := v }]

/-- The three lists in a document. -/
def record : Record Groups where
  name := "UserResults"
  initial := none
  closed := false
  fields := recordFields fun change groups => change groups

end Groups

/-- The results of one run. -/
structure Results where
  schema : String
  image : String
  platform : String
  /-- When the checks ran. -/
  testedOn : String
  passed : Bool
  groups : Groups
  deriving DecidableEq, Repr

namespace Results

/-- The name of the form in which results are written. -/
def schemaName : String := "preflight.results.v1"

/-- The results of a run that has not checked anything yet. -/
def empty (image platform : String) : Results :=
  ⟨schemaName, image, platform, "", true, .none⟩

/-- The results as JSON. -/
def toJson (results : Results) : Json :=
  .object ([("schema", .text results.schema), ("tested_image", .text results.image),
    ("platform", .text results.platform), ("tested_on", .text results.testedOn),
    ("passed_overall", .boolean results.passed)] ++ results.groups.fields)

/-- The fields of results. -/
def record : Record Results where
  name := "Results"
  initial := empty "" ""
  closed := false
  fields := [
    .must "schema" Decoder.text fun v results => { results with schema := v },
    .must "tested_image" Decoder.text fun v results => { results with image := v },
    .must "platform" Decoder.text fun v results => { results with platform := v },
    .must "tested_on" Decoder.text fun v results => { results with testedOn := v },
    .must "passed_overall" Decoder.boolean fun v results => { results with passed := v }] ++
    Groups.recordFields fun change results => { results with groups := change results.groups }

end Results
end ContainerCert.Report
