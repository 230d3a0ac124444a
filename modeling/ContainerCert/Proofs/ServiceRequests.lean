import ContainerCert.Proofs.Actions
import ContainerCert.Run.Submission

/-!
# The requests of a submission

Every request is noted before anything can go wrong with it, so a submission that is begun has
asked for the project. Only when the service has named the project and the results could be read
are they sent, in the request that comes next. Whether a step goes through is told by what the
network and the files say, and so are the requests that were made by then.
-/

namespace ContainerCert

namespace Pyxis

theorem send_attempted (request : Request) (network : Network) :
    (send request network).2.attempted = network.attempted ++ [request] := by
  simp only [send]
  split
  · rfl
  · split
    · rfl
    · split <;> rfl

/-- A request gets an answer with this body: it can be put together, there is a server, and the next
answer comes back with a status that puts the blame on nobody. -/
structure Network.Accepts (network : Network) (request : Request) (body : String) : Prop where
  sendable : request.hindrance? = none
  reached : network.reaches request.url = true
  answered : ∃ status, network.answers.headD .usual = .reply status body ∧
    ¬ (400 ≤ status ∧ status < 600)

/-- The network once some requests were sent, one after the other. -/
@[irreducible] def Network.afterSending (network : Network) (requests : List Request) : Network :=
  requests.foldl (fun network request => (send request network).2) network

theorem Network.afterSending_nil (network : Network) : network.afterSending [] = network := by
  rw [afterSending, List.foldl_nil]

theorem Network.afterSending_singleton (network : Network) (request : Request) :
    network.afterSending [request] = (send request network).2 := by
  rw [afterSending, List.foldl_cons, List.foldl_nil]

theorem Network.afterSending_append (network : Network) (first second : List Request) :
    network.afterSending (first ++ second) = (network.afterSending first).afterSending second := by
  rw [afterSending, afterSending, afterSending, List.foldl_append]

theorem Network.afterSending_attempted (network : Network) (requests : List Request) :
    (network.afterSending requests).attempted = network.attempted ++ requests := by
  rw [afterSending]
  induction requests generalizing network with
  | nil => simp
  | cons request requests ih =>
    rw [List.foldl_cons, ih, send_attempted, List.append_assoc, List.singleton_append]

theorem Answer.outcome_eq_ok_iff {answer : Answer} {body : String} :
    answer.outcome = .ok body ↔
      ∃ status, answer = .reply status body ∧ ¬ (400 ≤ status ∧ status < 600) := by
  cases answer with
  | dropped => simp [outcome]
  | reply status sent =>
    rw [outcome]
    constructor
    · intro h
      split at h
      · cases h
      · next hclean =>
        cases h
        exact ⟨status, rfl, by simpa [isFault] using hclean⟩
    · rintro ⟨_, ⟨⟩, hclean⟩
      simp [isFault, hclean]

/-- A request that is sent goes through exactly when it gets an answer. -/
theorem send_eq_ok_iff {request : Request} {network : Network} {body : String} :
    (send request network).1 = .ok body ↔ network.Accepts request body := by
  have hsplit : network.Accepts request body ↔ request.hindrance? = none ∧
      network.reaches request.url = true ∧ (network.answers.headD .usual).outcome = .ok body := by
    rw [Answer.outcome_eq_ok_iff]
    exact ⟨fun h => ⟨h.sendable, h.reached, h.answered⟩, fun ⟨hs, hr, ha⟩ => ⟨hs, hr, ha⟩⟩
  rw [hsplit, send]
  cases hhindrance : request.hindrance? with
  | some failure => simp
  | none =>
    cases hreaches : network.reaches request.url with
    | false => simp
    | true => cases hanswers : network.answers <;> simp

namespace Client

variable (client : Client)

/-- The request for the project. -/
def projectRequest : Request :=
  ⟨.get, client.projectUrl, client.token, none⟩

/-- The request that hands over a document about the project. -/
def postRequest (resource : String) (body : Json) : Request :=
  ⟨.post, client.projectUrl ++ "/" ++ resource, client.token, some body⟩

variable {client} {network : Network}

/-- A client's request is sent, and goes through where it gets an answer. -/
theorem request_cases (client : Client) (method : Method) (url : String) (body : Option Json)
    (network : Network) :
    (∃ answer, client.request method url body network =
        (.ok answer, network.afterSending [⟨method, url, client.token, body⟩]) ∧
      network.Accepts ⟨method, url, client.token, body⟩ answer) ∨
    ∃ cause, client.request method url body network =
        (.error cause, network.afterSending [⟨method, url, client.token, body⟩]) ∧
      ∀ answer, ¬ network.Accepts ⟨method, url, client.token, body⟩ answer := by
  rw [request, Action.mapError_apply]
  simp only [← send_eq_ok_iff]
  rw [Network.afterSending_singleton]
  rcases send ⟨method, url, client.token, body⟩ network with ⟨failure | answer, after⟩
  · exact .inr ⟨_, rfl, fun _ h => by cases h⟩
  · exact .inl ⟨answer, rfl, rfl⟩

/-- The service names the project: it answers the request for it with the document of one. -/
def IsNamed (client : Client) (network : Network) : Prop :=
  ∃ body project, network.Accepts client.projectRequest body ∧
    Json.decodeText Project.record.decode body = .ok project

/-- Asking for the project sends one request, and goes through where the answer names it. -/
theorem getProject_cases (client : Client) (network : Network) :
    (∃ project, client.getProject network =
        (.ok project, network.afterSending [client.projectRequest]) ∧ client.IsNamed network) ∨
      ∃ cause, client.getProject network =
          (.error cause, network.afterSending [client.projectRequest]) ∧
        ¬ client.IsNamed network := by
  rw [getProject]
  obtain ⟨body, hrequest, haccepts⟩ | ⟨cause, hrequest, hrefuses⟩ :=
    client.request_cases .get client.projectUrl none network
  · rw [Action.bind_of_ok hrequest]
    cases hdecode : Json.decodeText Project.record.decode body with
    | ok project => exact .inl ⟨project, rfl, body, project, haccepts, hdecode⟩
    | error fault =>
      refine .inr ⟨_, rfl, ?_⟩
      rintro ⟨other, project, hother, hproject⟩
      -- There is only one answer.
      have hsame := (send_eq_ok_iff.mpr haccepts).symm.trans (send_eq_ok_iff.mpr hother)
      rw [← Except.ok.inj hsame, hdecode] at hproject
      cases hproject
  · rw [Action.bind_of_error hrequest]
    refine .inr ⟨cause, rfl, ?_⟩
    rintro ⟨body, _, haccepts, -⟩
    exact hrefuses body haccepts

/-- Handing over a document sends one request, and goes through where that gets an answer. -/
theorem post_cases (client : Client) (resource : String) (body : Json) (network : Network) :
    (client.post resource body network =
        (.ok (), network.afterSending [client.postRequest resource body]) ∧
      ∃ answer, network.Accepts (client.postRequest resource body) answer) ∨
    ∃ cause, client.post resource body network =
        (.error cause, network.afterSending [client.postRequest resource body]) ∧
      ∀ answer, ¬ network.Accepts (client.postRequest resource body) answer := by
  rw [post]
  obtain ⟨answer, hrequest, haccepts⟩ | ⟨cause, hrequest, hrefuses⟩ :=
    client.request_cases .post (client.projectUrl ++ "/" ++ resource) (some body) network
  · rw [Action.bind_of_ok hrequest]
    exact .inl ⟨rfl, answer, haccepts⟩
  · rw [Action.bind_of_error hrequest]
    exact .inr ⟨cause, rfl, hrefuses⟩

/-- The service names the project where asking for it gives one. -/
theorem isNamed_iff :
    client.IsNamed network ↔ ∃ project, (client.getProject network).1 = .ok project := by
  obtain ⟨project, hproject, hnamed⟩ | ⟨_, hfails, hnot⟩ := client.getProject_cases network
  · simp [hproject, hnamed]
  · simp [hfails, hnot]

end Client
end Pyxis

/-- A submission to the service goes by the directory that is bound for artifacts. -/
theorem Run.Submission.submit_of_bound {scope : Check.Scope Machine}
    {place : ArtifactsWriter Machine} (hbound : scope.artifacts = some place)
    (submission : ServiceSubmission) :
    (Submission.service submission).submitter.submit scope = submission.run place.path := by
  simp only [submitter, hbound]

namespace Run.ServiceSubmission

open Pyxis

variable (submission : ServiceSubmission)

/-- The request that hands over results. -/
def delivery (response : Report.Response) : Request :=
  submission.client.postRequest "test-results"
    (resultsBody submission.client.projectId response)

/-- The request that sends the content of the log file. -/
def logDelivery (content : ByteArray) : Request :=
  submission.client.postRequest "artifacts"
    (Upload.toJson ⟨submission.client.projectId, logName submission.logFile, "text/plain", content⟩)

/-- The service takes the results once it was asked for the project. -/
def Delivers (network : Network) (response : Report.Response) : Prop :=
  ∃ answer, (network.afterSending [submission.client.projectRequest]).Accepts
    (submission.delivery response) answer

/-- The service takes the log file once it has the results. -/
def DeliversLog (network : Network) (response : Report.Response) (content : ByteArray) : Prop :=
  ∃ answer, (network.afterSending [submission.client.projectRequest,
    submission.delivery response]).Accepts (submission.logDelivery content) answer

/-- The requests that a submission makes with these files over this network, and how it ends. -/
inductive Sends (artifacts : String) (files : Files.FileTree) (network : Network) :
    List Request → Except SubmitError Unit → Prop where
  | unnamed {cause : ClientError} (hnamed : ¬ submission.client.IsNamed network) :
      Sends artifacts files network [submission.client.projectRequest] (.error (.service cause))
  | unread {cause : SubmitError} (hnamed : submission.client.IsNamed network)
      (hread : readResults artifacts files = .error cause) :
      Sends artifacts files network [submission.client.projectRequest] (.error cause)
  | refused {response : Report.Response} {cause : ClientError}
      (hnamed : submission.client.IsNamed network)
      (hread : readResults artifacts files = .ok response)
      (hdelivers : ¬ submission.Delivers network response) :
      Sends artifacts files network
        [submission.client.projectRequest, submission.delivery response] (.error (.service cause))
  | unlogged {response : Report.Response} {cause : Files.IoError}
      (hnamed : submission.client.IsNamed network)
      (hread : readResults artifacts files = .ok response)
      (hdelivers : submission.Delivers network response)
      (hlog : files.read submission.logFile = .error cause) :
      Sends artifacts files network
        [submission.client.projectRequest, submission.delivery response] (.ok ())
  | logRefused {response : Report.Response} {content : ByteArray} {cause : ClientError}
      (hnamed : submission.client.IsNamed network)
      (hread : readResults artifacts files = .ok response)
      (hdelivers : submission.Delivers network response)
      (hlog : files.read submission.logFile = .ok content)
      (hlogged : ¬ submission.DeliversLog network response content) :
      Sends artifacts files network [submission.client.projectRequest,
        submission.delivery response, submission.logDelivery content] (.error (.service cause))
  | finished {response : Report.Response} {content : ByteArray}
      (hnamed : submission.client.IsNamed network)
      (hread : readResults artifacts files = .ok response)
      (hdelivers : submission.Delivers network response)
      (hlog : files.read submission.logFile = .ok content)
      (hlogged : submission.DeliversLog network response content) :
      Sends artifacts files network [submission.client.projectRequest,
        submission.delivery response, submission.logDelivery content] (.ok ())

/-- Asking for the project on a machine. -/
theorem onNetwork_getProject_cases (client : Client) (machine : Machine) :
    (∃ project, Machine.onNetwork (client.getProject.mapError SubmitError.service) machine =
        (.ok project, { machine with
          network := machine.network.afterSending [client.projectRequest] }) ∧
      client.IsNamed machine.network) ∨
    ∃ cause, Machine.onNetwork (client.getProject.mapError SubmitError.service) machine =
        (.error (.service cause), { machine with
          network := machine.network.afterSending [client.projectRequest] }) ∧
      ¬ client.IsNamed machine.network := by
  rw [Machine.onNetwork, Action.within_apply, Action.mapError_apply]
  obtain ⟨project, hproject, hnamed⟩ | ⟨cause, hproject, hnamed⟩ :=
    client.getProject_cases machine.network
  · simp only [hproject, Action.mapError_ok]
    exact .inl ⟨project, rfl, hnamed⟩
  · simp only [hproject, Action.mapError_error]
    exact .inr ⟨cause, rfl, hnamed⟩

/-- Handing over a document on a machine. -/
theorem onNetwork_post_cases (client : Client) (resource : String) (body : Json)
    (machine : Machine) :
    (Machine.onNetwork ((client.post resource body).mapError SubmitError.service) machine =
        (.ok (), { machine with
          network := machine.network.afterSending [client.postRequest resource body] }) ∧
      ∃ answer, machine.network.Accepts (client.postRequest resource body) answer) ∨
    ∃ cause, Machine.onNetwork ((client.post resource body).mapError SubmitError.service) machine =
        (.error (.service cause), { machine with
          network := machine.network.afterSending [client.postRequest resource body] }) ∧
      ¬ ∃ answer, machine.network.Accepts (client.postRequest resource body) answer := by
  rw [Machine.onNetwork, Action.within_apply, Action.mapError_apply]
  obtain ⟨hpost, hanswer⟩ | ⟨cause, hpost, hrefuses⟩ :=
    client.post_cases resource body machine.network
  · simp only [hpost, Action.mapError_ok]
    exact .inl ⟨trivial, hanswer⟩
  · simp only [hpost, Action.mapError_error]
    exact .inr ⟨cause, rfl, not_exists.mpr hrefuses⟩

/-- The log file is sent where it can be read. -/
theorem sendLog_cases (submission : ServiceSubmission) (machine : Machine) :
    (∃ cause, machine.files.read submission.logFile = .error cause ∧
      submission.sendLog machine = (.ok (), machine)) ∨
    ∃ content, machine.files.read submission.logFile = .ok content ∧
      ((submission.sendLog machine = (.ok (), { machine with
            network := machine.network.afterSending [submission.logDelivery content] }) ∧
          ∃ answer, machine.network.Accepts (submission.logDelivery content) answer) ∨
        ∃ cause, submission.sendLog machine = (.error (.service cause), { machine with
            network := machine.network.afterSending [submission.logDelivery content] }) ∧
          ¬ ∃ answer, machine.network.Accepts (submission.logDelivery content) answer) := by
  rw [sendLog, Action.bind_of_ok (Action.get_apply machine)]
  cases hlog : machine.files.read submission.logFile with
  | error cause => exact .inl ⟨cause, rfl, rfl⟩
  | ok content => exact .inr ⟨content, rfl, onNetwork_post_cases _ _ _ machine⟩

/-- A submission leaves the files as they are, and the network as its requests leave it. -/
theorem exists_sends (submission : ServiceSubmission) (artifacts : String) (machine : Machine) :
    ∃ made result, submission.run artifacts machine =
        (result, { machine with network := machine.network.afterSending made }) ∧
      submission.Sends artifacts machine.files machine.network made result := by
  rw [run]
  obtain ⟨project, hask, hnamed⟩ | ⟨cause, hask, hnamed⟩ :=
    onNetwork_getProject_cases submission.client machine
  · rw [Action.bind_of_ok hask, Action.bind_of_ok (Action.get_apply _)]
    cases hread : readResults artifacts machine.files with
    | error cause =>
      rw [Action.bind_of_error (Action.ofExcept_apply _ _)]
      exact ⟨[submission.client.projectRequest], _, rfl, .unread hnamed hread⟩
    | ok response =>
      rw [Action.bind_of_ok (Action.ofExcept_apply _ _)]
      obtain ⟨hdeliver, hdelivers⟩ | ⟨cause, hdeliver, hdelivers⟩ :=
        onNetwork_post_cases submission.client "test-results"
          (resultsBody submission.client.projectId response) { machine with
            network := machine.network.afterSending [submission.client.projectRequest] }
      · rw [← Network.afterSending_append] at hdeliver
        rw [Client.submitResults, Action.bind_of_ok hdeliver]
        obtain ⟨cause, hlog, hsend⟩ | ⟨content, hlog, ⟨hsend, hlogged⟩ | ⟨cause, hsend, hlogged⟩⟩ :=
          submission.sendLog_cases { machine with
            network := machine.network.afterSending
              [submission.client.projectRequest, submission.delivery response] }
        · exact ⟨[submission.client.projectRequest, submission.delivery response], _, hsend,
            .unlogged hnamed hread hdelivers hlog⟩
        · rw [← Network.afterSending_append] at hsend
          exact ⟨[submission.client.projectRequest, submission.delivery response,
            submission.logDelivery content], _, hsend,
            .finished hnamed hread hdelivers hlog hlogged⟩
        · rw [← Network.afterSending_append] at hsend
          exact ⟨[submission.client.projectRequest, submission.delivery response,
            submission.logDelivery content], _, hsend,
            .logRefused hnamed hread hdelivers hlog hlogged⟩
      · rw [← Network.afterSending_append] at hdeliver
        rw [Client.submitResults, Action.bind_of_error hdeliver]
        exact ⟨[submission.client.projectRequest, submission.delivery response], _, rfl,
          .refused hnamed hread hdelivers⟩
  · rw [Action.bind_of_error hask]
    exact ⟨[submission.client.projectRequest], _, rfl, .unnamed hnamed⟩

/-- A submission asks for the project, and if the service names it and the results can be read,
it hands them over next, and then at most a file. -/
theorem run_attempted (submission : ServiceSubmission) (artifacts : String) (machine : Machine) :
    ∃ later, (submission.run artifacts machine).2.network.attempted =
        machine.network.attempted ++ submission.client.projectRequest :: later ∧
      ((∃ project response last,
          (submission.client.getProject machine.network).1 = .ok project ∧
          readResults artifacts machine.files = .ok response ∧
          later = submission.client.postRequest "test-results"
            (resultsBody submission.client.projectId response) :: last ∧
          (last = [] ∨
            ∃ file : Upload, last = [submission.client.postRequest "artifacts" file.toJson])) ∨
        later = [] ∧ ∀ project response,
          (submission.client.getProject machine.network).1 = .ok project →
          readResults artifacts machine.files ≠ .ok response) := by
  obtain ⟨made, result, hrun, hsends⟩ := submission.exists_sends artifacts machine
  have hattempted : (submission.run artifacts machine).2.network.attempted =
      machine.network.attempted ++ made := by
    rw [hrun]
    exact machine.network.afterSending_attempted made
  cases hsends with
  | unnamed hnamed =>
    exact ⟨[], hattempted, .inr ⟨rfl, fun project _ hproject =>
      absurd (Client.isNamed_iff.mpr ⟨project, hproject⟩) hnamed⟩⟩
  | unread hnamed hread =>
    exact ⟨[], hattempted, .inr ⟨rfl, fun _ _ _ h => by simp [hread] at h⟩⟩
  | refused hnamed hread | unlogged hnamed hread =>
    obtain ⟨project, hproject⟩ := Client.isNamed_iff.mp hnamed
    exact ⟨_, hattempted, .inl ⟨project, _, [], hproject, hread, rfl, .inl rfl⟩⟩
  | logRefused hnamed hread | finished hnamed hread =>
    obtain ⟨project, hproject⟩ := Client.isNamed_iff.mp hnamed
    exact ⟨_, hattempted, .inl ⟨project, _, _, hproject, hread, rfl, .inr ⟨_, rfl⟩⟩⟩

end Run.ServiceSubmission
end ContainerCert
