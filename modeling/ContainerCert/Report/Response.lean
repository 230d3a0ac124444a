import ContainerCert.Report.Results

/-!
# The document for users

The results of a run as they are handed to users and to the certification service, together with
the name and version of the library that made them.
-/

namespace ContainerCert.Report

open Data (Decoder Record RecordField)

/-- The library that made a document. -/
structure Library where
  name : String
  version : String
  deriving DecidableEq, Repr

namespace Library

/-- This library. -/
def this : Library := ⟨"preflight", "0.1.0"⟩

/-- The library as JSON. -/
def toJson (library : Library) : Json :=
  .object [("name", .text library.name), ("version", .text library.version)]

/-- The fields of a library. -/
def record : Record Library where
  name := "TestLibrary"
  initial := ⟨"", ""⟩
  closed := false
  fields := [
    .must "name" Decoder.text fun v library => { library with name := v },
    .must "version" Decoder.text fun v library => { library with version := v }]

end Library

/-- The document for users. -/
structure Response where
  image : String
  passed : Bool
  platform : String
  testedOn : String
  library : Library
  groups : Groups
  deriving DecidableEq, Repr

namespace Response

/-- The document for the results of a run. -/
def ofResults (results : Results) (library : Library) : Response :=
  ⟨results.image, results.passed, results.platform, results.testedOn, library, results.groups⟩

/-- The document as the fields of a JSON object. -/
def fields (response : Response) : List (String × Json) :=
  [("image", .text response.image), ("passed", .boolean response.passed),
    ("platform", .text response.platform), ("tested_on", .text response.testedOn),
    ("test_library", response.library.toJson), ("results", response.groups.toJson)]

/-- The document as JSON. -/
def toJson (response : Response) : Json :=
  .object response.fields

/-- The fields of the document. -/
def record : Record Response where
  name := "UserResponse"
  initial := ⟨"", false, "", "", ⟨"", ""⟩, .none⟩
  closed := false
  fields := [
    .must "image" Decoder.text fun v response => { response with image := v },
    .must "passed" Decoder.boolean fun v response => { response with passed := v },
    .must "platform" Decoder.text fun v response => { response with platform := v },
    .must "tested_on" Decoder.text fun v response => { response with testedOn := v },
    .must "test_library" Library.record.decode fun v response => { response with library := v },
    .must "results" Groups.record.decode fun v response => { response with groups := v }]

/-- Take the document out of a document tree. -/
def decode : Decoder Response :=
  record.decode

end Response
end ContainerCert.Report
