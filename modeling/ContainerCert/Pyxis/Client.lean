import ContainerCert.Json.Document
import ContainerCert.Pyxis.Network
import ContainerCert.Report.Response
import ContainerCert.Text.Base64

/-!
# The client of the certification service

A client asks the service about one certification project and sends it documents: the results of
a run and the files that go with them. Every request carries the token.
-/

namespace ContainerCert.Pyxis

open Data (Decoder Record)

/-- What the service says about a project. -/
structure Project where
  id : String
  name : String
  status : String
  deriving DecidableEq, Repr

/-- The fields of a project in the service's answer. -/
def Project.record : Record Project where
  name := "CertProject"
  initial := ⟨"", "", ""⟩
  closed := false
  fields := [
    .may "_id" Decoder.text fun v project => { project with id := v },
    .may "name" Decoder.text fun v project => { project with name := v },
    .may "project_status" Decoder.text fun v project => { project with status := v }]

/-- A file that is sent to the service. -/
structure Upload where
  projectId : String
  fileName : String
  contentType : String
  content : ByteArray

/-- The file as JSON, its bytes in base 64. -/
def Upload.toJson (upload : Upload) : Json :=
  .object [("cert_project", .text upload.projectId), ("filename", .text upload.fileName),
    ("content_type", .text upload.contentType), ("file_size", .natural upload.content.size),
    ("content", .text (String.ofList (Text.Base64.encode upload.content.toList)))]

/-- The results of a run as they are sent: the document for users, with the project in front. -/
def resultsBody (projectId : String) (response : Report.Response) : Json :=
  .object (("cert_project", .text projectId) :: response.fields)

/-- A request that failed. -/
structure ClientError where
  method : Method
  url : String
  failure : Failure
  deriving DecidableEq, Repr

/-- The text of a failure for a request to an address, given in the form in which it is shown. -/
def Failure.message (url : String) : Failure → String
  | .unsendable => "builder error"
  | .unaddressable => "builder error for url (" ++ url ++ ")"
  | .unanswered => "error sending request for url (" ++ url ++ ")"
  | .refused status =>
    "HTTP status " ++ (if status < 500 then "client" else "server") ++ " error (" ++
      toString status ++ " X) for url (" ++ url ++ ")"
  | .unreadable => "error decoding response body"

/-- The message of a request that failed. -/
def ClientError.message (error : ClientError) : String :=
  error.method.name ++ " " ++ error.url ++ " failed: " ++
    error.failure.message (((Address.ofText? error.url).map Address.shown).getD error.url)

/-- A client for one project. -/
structure Client where
  host : String
  token : Token
  projectId : String
  deriving DecidableEq

namespace Client

/-- The text without the slashes at its end. -/
def withoutSlashes (text : String) : String :=
  String.ofList (text.toList.reverse.dropWhile (· == '/')).reverse

/-- Whether a host says how it is to be talked to. -/
def hasScheme (host : String) : Bool :=
  "http://".toList.isPrefixOf host.toList || "https://".toList.isPrefixOf host.toList

/-- The address of the project. -/
def projectUrl (client : Client) : String :=
  let host := withoutSlashes client.host
  let base := if hasScheme host then host else "https://" ++ host
  base ++ "/v1/projects/certification/id/" ++ client.projectId

/-- Send a request. -/
def request (client : Client) (method : Method) (url : String) (body : Option Json) :
    Action Network ClientError String :=
  (send ⟨method, url, client.token, body⟩).mapError fun failure => ⟨method, url, failure⟩

/-- Ask for the project. -/
def getProject (client : Client) : Action Network ClientError Project := do
  let url := client.projectUrl
  let body ← client.request .get url none
  match Json.decodeText Project.record.decode body with
  | .ok project => return project
  | .error _ => throw ⟨.get, url, .unreadable⟩

/-- Send a document about the project. -/
def post (client : Client) (resource : String) (body : Json) : Action Network ClientError Unit := do
  let _ ← client.request .post (client.projectUrl ++ "/" ++ resource) (some body)

/-- Send the results of a run. -/
def submitResults (client : Client) (response : Report.Response) :
    Action Network ClientError Unit :=
  client.post "test-results" (resultsBody client.projectId response)

/-- Send a file. -/
def upload (client : Client) (file : Upload) : Action Network ClientError Unit :=
  client.post "artifacts" file.toJson

/-- The client as developers see it before its first request, the token masked. -/
def summary (client : Client) : String :=
  Text.summary "PyxisClient" [("host", Text.quote client.host), ("token", client.token.summary),
    ("project_id", Text.quote client.projectId), ("http", "OnceLock(<uninit>)")]

end Client
end ContainerCert.Pyxis
