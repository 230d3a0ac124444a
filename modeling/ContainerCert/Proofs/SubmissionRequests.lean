import ContainerCert.Proofs.Base64
import ContainerCert.Proofs.ServiceRequests

/-!
# The course of a submission

A submission asks for the project, hands over the results and sends the log file, in this order,
and stops at the first step that fails; only a log file that cannot be read is passed over.
-/

namespace ContainerCert

namespace Run.ServiceSubmission

open Pyxis

variable {submission : ServiceSubmission} {artifacts : String} {files : Files.FileTree}
  {network : Network} {made : List Request} {result : Except SubmitError Unit}

namespace Sends

variable (h : submission.Sends artifacts files network made result)
include h

/-- The requests go to their three addresses in order. -/
theorem targets_prefix : made.map (fun request => (request.method, request.url)) <+:
    [(.get, submission.client.projectUrl),
      (.post, submission.client.projectUrl ++ "/" ++ "test-results"),
      (.post, submission.client.projectUrl ++ "/" ++ "artifacts")] := by
  cases h with
  | unnamed | unread | refused | unlogged => exact ⟨_, rfl⟩
  | logRefused | finished => exact ⟨[], rfl⟩

/-- The project is asked for first, whatever comes after. -/
theorem head?_eq : made.head? = some submission.client.projectRequest := by
  cases h with
  | unnamed | unread | refused | unlogged | logRefused | finished => rfl

/-- All requests carry the token of the client. -/
theorem token_eq : ∀ request ∈ made, request.token = submission.client.token := by
  cases h with
  | unnamed | unread | refused | unlogged | logRefused | finished =>
    simp [Client.projectRequest, delivery, logDelivery, Client.postRequest]

/-- The results are handed over where the project is named and they can be read. -/
theorem second_iff {request : Request} : made[1]? = some request ↔
    submission.client.IsNamed network ∧ ∃ response,
      readResults artifacts files = .ok response ∧ request = submission.delivery response := by
  cases h with
  | unnamed hnamed => simp [hnamed]
  | unread hnamed hread => simp [hread]
  | refused hnamed hread | unlogged hnamed hread | logRefused hnamed hread
  | finished hnamed hread => simp [hnamed, hread, eq_comm]

/-- The log file is sent where the results were taken and it can be read. -/
theorem third_iff {request : Request} : made[2]? = some request ↔
    submission.client.IsNamed network ∧ ∃ response, readResults artifacts files = .ok response ∧
      submission.Delivers network response ∧ ∃ content,
        files.read submission.logFile = .ok content ∧ request = submission.logDelivery content := by
  cases h with
  | unnamed hnamed => simp [hnamed]
  | unread hnamed hread => simp [hread]
  | refused hnamed hread hdelivers => simp [hread, hdelivers]
  | unlogged hnamed hread hdelivers hlog => simp [hlog]
  | logRefused hnamed hread hdelivers hlog | finished hnamed hread hdelivers hlog =>
    simp [hnamed, hread, hdelivers, hlog, eq_comm]

/-- A submission goes through where every step does that it comes to. -/
theorem eq_ok_iff : result = .ok () ↔
    submission.client.IsNamed network ∧ ∃ response, readResults artifacts files = .ok response ∧
      submission.Delivers network response ∧ ∀ content,
        files.read submission.logFile = .ok content →
          submission.DeliversLog network response content := by
  cases h with
  | unnamed hnamed => simp [hnamed]
  | unread hnamed hread => simp [hread]
  | refused hnamed hread hdelivers => simp [hread, hdelivers]
  | unlogged hnamed hread hdelivers hlog => simp [hnamed, hread, hdelivers, hlog]
  | logRefused hnamed hread hdelivers hlog hlogged
  | finished hnamed hread hdelivers hlog hlogged => simp [hnamed, hread, hdelivers, hlog, hlogged]

/-- Nothing is sent after a request that got no answer. -/
theorem accepts_of_followed {before later : List Request} {request : Request}
    (hmade : made = before ++ request :: later) (hlater : later ≠ []) :
    ∃ body, (network.afterSending before).Accepts request body := by
  have hasked (hnamed : submission.client.IsNamed network) :
      ∃ body, (network.afterSending []).Accepts submission.client.projectRequest body := by
    obtain ⟨body, -, haccepts, -⟩ := hnamed
    rw [Network.afterSending_nil]
    exact ⟨body, haccepts⟩
  match before with
  | [] =>
    cases h with
    | unnamed | unread => simp_all
    | refused hnamed | unlogged hnamed | logRefused hnamed | finished hnamed =>
      obtain ⟨rfl, -⟩ := List.cons.inj hmade
      exact hasked hnamed
  | [first] =>
    cases h with
    | unnamed | unread | refused | unlogged => simp_all
    | logRefused hnamed hread hdelivers | finished hnamed hread hdelivers =>
      obtain ⟨rfl, hrest⟩ := List.cons.inj hmade
      obtain ⟨rfl, -⟩ := List.cons.inj hrest
      exact hdelivers
  | first :: second :: rest =>
    -- There are only three requests, and the third is the last.
    refine absurd (List.length_eq_zero_iff.mp ?_) hlater
    have hcount := congrArg List.length hmade
    cases h <;> simp at hcount <;> omega

end Sends

theorem toList_loop_eq (content : ByteArray) (i : Nat) (read : List UInt8) :
    ByteArray.toList.loop content i read = read.reverse ++ content.data.toList.drop i := by
  fun_induction ByteArray.toList.loop content i read with
  | case1 i read hi ih =>
    have hdata : i < content.data.toList.length := by simpa using hi
    have hbyte : content.get! i = content.data.toList[i] := by
      rw [Array.getElem_toList]
      exact getElem!_pos content.data i (by simpa using hi)
    rw [ih, List.drop_eq_getElem_cons hdata, List.reverse_cons, List.append_assoc, hbyte]
    rfl
  | case2 i read hi => rw [List.drop_eq_nil_of_le (by simpa using hi), List.append_nil]

/-- The file in the request that sends the log has the size of the log, and what it holds is the
written form of the bytes of the log. -/
theorem logDelivery_body (submission : ServiceSubmission) (content : ByteArray) :
    ∃ written, (submission.logDelivery content).body = some (.object [
        ("cert_project", .text submission.client.projectId),
        ("filename", .text (logName submission.logFile)), ("content_type", .text "text/plain"),
        ("file_size", .natural content.size), ("content", .text written)]) ∧
      Text.Base64.decode? written.toList = some content.data.toList := by
  have hbytes : content.toList = content.data.toList := toList_loop_eq content 0 []
  refine ⟨_, rfl, ?_⟩
  rw [String.toList_ofList, Text.Base64.decode?_encode, hbytes]

/-- A submission with a place for its artifacts changes nothing but the network, which its requests
leave as it is then. The first asks for the project; they go to the project, to its results and to
its artifacts, in this order and each at most once, and all carry the token. The results are sent
where the service named the project and they could be read, and the log file where the service took
the results and the log file could be read. The submission goes through exactly where every step did
that it came to, and nothing is sent after a request that failed. The log file is sent with its size
and just its bytes. -/
theorem requests_of_submission {scope : Check.Scope Machine} {place : ArtifactsWriter Machine}
    (hbound : scope.artifacts = some place) (submission : ServiceSubmission) (machine : Machine) :
    ∃ made result, (Submission.service submission).submitter.submit scope machine =
        (result, { machine with network := machine.network.afterSending made }) ∧
      (machine.network.afterSending made).attempted = machine.network.attempted ++ made ∧
      made.head? = some submission.client.projectRequest ∧
      made.map (fun request => (request.method, request.url)) <+:
        [(.get, submission.client.projectUrl),
          (.post, submission.client.projectUrl ++ "/" ++ "test-results"),
          (.post, submission.client.projectUrl ++ "/" ++ "artifacts")] ∧
      (∀ request ∈ made, request.token = submission.client.token) ∧
      (∀ request, made[1]? = some request ↔ submission.client.IsNamed machine.network ∧
        ∃ response, readResults place.path machine.files = .ok response ∧
          request = submission.delivery response) ∧
      (∀ request, made[2]? = some request ↔ submission.client.IsNamed machine.network ∧
        ∃ response, readResults place.path machine.files = .ok response ∧
          submission.Delivers machine.network response ∧
          ∃ content, machine.files.read submission.logFile = .ok content ∧
            request = submission.logDelivery content) ∧
      (result = .ok () ↔ submission.client.IsNamed machine.network ∧
        ∃ response, readResults place.path machine.files = .ok response ∧
          submission.Delivers machine.network response ∧
          ∀ content, machine.files.read submission.logFile = .ok content →
            submission.DeliversLog machine.network response content) ∧
      (∀ before request later, made = before ++ request :: later → later ≠ [] →
        ∃ body, (machine.network.afterSending before).Accepts request body) ∧
      ∀ content, ∃ written, (submission.logDelivery content).body = some (.object [
          ("cert_project", .text submission.client.projectId),
          ("filename", .text (logName submission.logFile)), ("content_type", .text "text/plain"),
          ("file_size", .natural content.size), ("content", .text written)]) ∧
        Text.Base64.decode? written.toList = some content.data.toList := by
  obtain ⟨made, result, hrun, hsends⟩ := submission.exists_sends place.path machine
  refine ⟨made, result, ?_, machine.network.afterSending_attempted made, hsends.head?_eq,
    hsends.targets_prefix, hsends.token_eq, fun _ => hsends.second_iff, fun _ => hsends.third_iff,
    hsends.eq_ok_iff, fun _ _ _ => hsends.accepts_of_followed, submission.logDelivery_body⟩
  rw [Submission.submit_of_bound hbound, hrun]

/-- A machine whose results are no document, with a service that answers every request. -/
def unparsedMachine : Machine where
  files := ⟨[(["out"], .directory), (["out", "results.json"], .file "old".toUTF8),
    (["log"], .file "done".toUTF8)], []⟩
  network := ⟨fun _ => true, [], []⟩
  signals := .quiet
  timestamp := ""

/-- Results that are no document are not handed over, and neither is the log, though the service
names the project. -/
theorem requests_of_submission_unparsed :
    let scope : Check.Scope Machine := ⟨pure false, some (Machine.directoryWriter "/out")⟩
    let submission : ServiceSubmission := ⟨⟨"host", ⟨"secret"⟩, "id"⟩, "", "/log"⟩
    scope.artifacts = some (Machine.directoryWriter "/out") ∧ ∃ result after,
      (Submission.service submission).submitter.submit scope unparsedMachine = (result, after) ∧
      result ≠ .ok () ∧ after.network.attempted = [submission.client.projectRequest] := by
  intro scope submission
  refine ⟨rfl, ?_⟩
  obtain ⟨made, result, hsubmit, hattempted, hfirst, -, -, hsecond, -, hok, -⟩ :=
    @requests_of_submission scope (Machine.directoryWriter "/out") rfl submission unparsedMachine
  have hunread : (readResults "/out" unparsedMachine.files).toBool = false := by decide +kernel
  have hread (response : Report.Response) :
      readResults "/out" unparsedMachine.files ≠ .ok response := by
    intro hread
    simp [hread, Except.toBool] at hunread
  refine ⟨result, _, hsubmit, ?_, ?_⟩
  · intro hresult
    obtain ⟨-, response, hresponse, -⟩ := hok.mp hresult
    exact hread response hresponse
  · have hnothing : made[1]? = none := by
      refine Option.eq_none_iff_forall_ne_some.mpr fun request hrequest => ?_
      obtain ⟨-, response, hresponse, -⟩ := (hsecond request).mp hrequest
      exact hread response hresponse
    rw [hattempted]
    match made with
    | [request] => exact congrArg (List.cons · []) (Option.some.inj hfirst)
    | [] => cases hfirst
    | _ :: _ :: _ => cases hnothing

end Run.ServiceSubmission
end ContainerCert
