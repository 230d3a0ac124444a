import ContainerCert.Proofs.EngineOptions
import ContainerCert.Proofs.ProjectRequest

/-!
# What the token changes

The token reaches the options of the engine, the client of the service and every request, but what
becomes of a run depends only on whether there is a token and whether it can be sent. Two runs with
different tokens go alike: they give the same outcome, leave the same files and make the same
requests, each with its own token in the header and nothing of it anywhere else.
-/

namespace ContainerCert

namespace Pyxis

variable {token given : Token} {earlier : List Request} {network other : Network}

/-- The same request with another token in its header. -/
def Request.withToken (request : Request) (given : Token) : Request :=
  { request with token := given }

/-- The same client with another token. -/
def Client.withToken (client : Client) (given : Token) : Client :=
  { client with token := given }

/-- Two networks that are the same but for the token that requests since some earlier ones
carry. -/
structure Network.Alike (token given : Token) (earlier : List Request) (network other : Network) :
    Prop where
  reaches : other.reaches = network.reaches
  answers : other.answers = network.answers
  attempted : ∃ made, (∀ request ∈ made, request.token = token) ∧
    network.attempted = earlier ++ made ∧
    other.attempted = earlier ++ made.map (Request.withToken · given)

theorem Network.Alike.refl (token given : Token) (network : Network) :
    Alike token given network.attempted network network :=
  ⟨rfl, rfl, [], by simp, by simp, by simp⟩

/-- What keeps a request from being sent is the same for two tokens that can be sent. -/
theorem Request.hindrance?_withToken {request : Request}
    (hsame : given.isSendable = request.token.isSendable) :
    (request.withToken given).hindrance? = request.hindrance? := by
  unfold hindrance?
  rw [withToken]
  simp only [hsame]

/-- Networks stay alike when a request is noted in both, with the two tokens. -/
theorem Network.Alike.note (h : Alike token given earlier network other) {request : Request}
    (htoken : request.token = token) :
    Alike token given earlier { network with attempted := network.attempted ++ [request] }
      { other with attempted := other.attempted ++ [request.withToken given] } := by
  obtain ⟨made, htokens, hattempted, hother⟩ := h.attempted
  refine ⟨h.reaches, h.answers, made ++ [request], ?_, ?_, ?_⟩
  · simpa [or_imp, forall_and] using ⟨htokens, htoken⟩
  · simp [hattempted]
  · simp [hother]

/-- Sending goes alike with two tokens that can be sent. -/
theorem send_matches (hsame : given.isSendable = token.isSendable) {request : Request}
    (htoken : request.token = token) :
    Action.Matches (Network.Alike token given earlier) (send request)
      (send (request.withToken given)) := by
  intro network ⟨_, _, attempted⟩ halike
  have hnoted := halike.note htoken
  have hhindrance : (request.withToken given).hindrance? = request.hindrance? :=
    Request.hindrance?_withToken (by rw [hsame, htoken])
  obtain ⟨rfl, rfl, -⟩ := halike
  simp only [send, hhindrance]
  cases request.hindrance? with
  | some failure => exact ⟨rfl, hnoted⟩
  | none =>
    cases hreached : network.reaches request.url with
    | false =>
      simp only [Request.withToken, hreached, Bool.not_false, if_true]
      exact ⟨trivial, hnoted⟩
    | true =>
      simp only [Request.withToken, hreached, Bool.not_true, Bool.false_eq_true, if_false]
      cases hanswers : network.answers with
      | nil =>
        rw [hanswers] at hnoted
        exact ⟨rfl, hnoted⟩
      | cons answer answers => exact ⟨rfl, rfl, rfl, hnoted.attempted⟩

namespace Client

variable {client : Client} (hsame : given.isSendable = client.token.isSendable)
include hsame

theorem request_matches (method : Method) (url : String) (body : Option Json) :
    Action.Matches (Network.Alike client.token given earlier) (client.request method url body)
      ((client.withToken given).request method url body) :=
  .mapError (send_matches hsame rfl) _

theorem getProject_matches :
    Action.Matches (Network.Alike client.token given earlier) client.getProject
      (client.withToken given).getProject := by
  refine .bind (client.request_matches hsame .get client.projectUrl none) fun body => ?_
  cases Json.decodeText Project.record.decode body with
  | ok project => exact .pure project
  | error fault => exact .throw _

theorem post_matches (resource : String) (body : Json) :
    Action.Matches (Network.Alike client.token given earlier) (client.post resource body)
      ((client.withToken given).post resource body) :=
  .bind (client.request_matches hsame .post _ _) fun _ => .pure ()

end Client

end Pyxis

namespace Run

open Pyxis (Network Request Token)

variable {token given : Token} {earlier : List Request}

/-- Two machines that are the same but for the token that requests since some earlier ones carry. -/
structure Machine.Alike (token given : Token) (earlier : List Request) (machine other : Machine) :
    Prop where
  files : other.files = machine.files
  signals : other.signals = machine.signals
  timestamp : other.timestamp = machine.timestamp
  network : Network.Alike token given earlier machine.network other.network

theorem Machine.Alike.refl (token given : Token) (machine : Machine) :
    Alike token given machine.network.attempted machine machine :=
  ⟨rfl, rfl, rfl, .refl token given machine.network⟩

theorem Machine.onNetwork_matches {ε α : Type} {first second : Action Network ε α}
    (h : Action.Matches (Network.Alike token given earlier) first second) :
    Action.Matches (Machine.Alike token given earlier) (onNetwork first) (onNetwork second) :=
  .within (fun _ _ halike => ⟨halike.network, fun _ _ hafter =>
    ⟨halike.files, halike.signals, halike.timestamp, hafter⟩⟩) h

namespace ServiceSubmission

/-- The same submission with another token. -/
def withToken (submission : ServiceSubmission) (given : Token) : ServiceSubmission :=
  { submission with client := submission.client.withToken given }

variable {submission : ServiceSubmission}

/-- Submissions with two tokens that can be sent go alike. -/
theorem run_matches (hsame : given.isSendable = submission.client.token.isSendable)
    (artifacts : String) :
    Action.Matches (Machine.Alike submission.client.token given earlier)
      (submission.run artifacts) ((submission.withToken given).run artifacts) := by
  refine .bind (Machine.onNetwork_matches (.mapError (Pyxis.Client.getProject_matches hsame) _))
    fun _ => ?_
  refine .get_bind fun machine other halike => ?_
  rw [halike.files]
  refine .bind (.ofExcept _) fun response => ?_
  refine .bind (Machine.onNetwork_matches (.mapError (Pyxis.Client.post_matches hsame _ _) _))
    fun _ => ?_
  refine .get_bind fun machine other halike => ?_
  rw [halike.files, show (submission.withToken given).logFile = submission.logFile from rfl]
  cases machine.files.read submission.logFile with
  | error cause => exact .pure ()
  | ok content =>
    exact Machine.onNetwork_matches (.mapError (Pyxis.Client.post_matches hsame _ _) _)

end ServiceSubmission

end Run

namespace Config

/-- The same configuration with another token. -/
def RunConfiguration.withToken (config : RunConfiguration) (given : Pyxis.Token) :
    RunConfiguration :=
  { config with apiToken := given }

/-- Settings with the same value for every key but the token. -/
def Settings.AgreeButToken (settings other : Settings) : Prop :=
  ∀ key, key ≠ .apiToken → other.get key = settings.get key

/-- Such settings make the same configuration but for the token, or fail alike. -/
theorem RunConfiguration.ofSettings_of_agree {settings other : Settings}
    (h : settings.AgreeButToken other) : ofSettings other =
      (ofSettings settings).map fun config => config.withToken ⟨other.getText .apiToken⟩ := by
  have htext (key : Key) (hkey : key ≠ .apiToken) : other.getText key = settings.getText key :=
    congrArg Value.asText (h key hkey)
  have hbool (key : Key) (hkey : key ≠ .apiToken) : other.getBool key = settings.getBool key := by
    rw [Settings.getBool_eq, Settings.getBool_eq, h key hkey, htext key hkey]
  unfold ofSettings
  simp only [htext .environment (by decide), htext .artifacts (by decide),
    htext .projectId (by decide), htext .host (by decide), htext .platform (by decide),
    htext .dockerConfig (by decide), htext .logFile (by decide), htext .logLevel (by decide),
    htext .responseFormat (by decide), hbool .submit (by decide), hbool .insecure (by decide),
    hbool .junit (by decide)]
  cases (settings.getText .artifacts).isEmpty with
  | true => rfl
  | false =>
    cases settings.getBool .submit <;> cases settings.getBool .insecure <;>
      cases settings.getBool .junit <;> rfl

end Config

namespace Check

/-- Checks that say the same about two targets. -/
theorem evaluateAll_of_agree {σ : Type} {clock : Clock σ} {scope : Scope σ}
    {target other : Target} {checks : List (ContainerCert.Check σ)}
    (h : ∀ check ∈ checks, check.evaluate other = check.evaluate target) (groups : Report.Groups) :
    evaluateAll clock scope other checks groups = evaluateAll clock scope target checks groups := by
  induction checks generalizing groups with
  | nil => rfl
  | cons check checks ih =>
    rw [List.forall_mem_cons] at h
    simp only [evaluateAll, evaluateTimed, h.1, ih h.2]

/-- The engine with its own checks sees nothing of its settings but the platform. -/
theorem engine_of_platform {σ : Type} {settings other : EngineSettings}
    (h : other.platform = settings.platform) (clock : Clock σ) (image : String) :
    engine clock image other builtin = engine clock image settings builtin := by
  have hchecks (reference : Image.Reference) : ∀ check ∈ (builtin : List (ContainerCert.Check σ)),
      check.evaluate ⟨reference, other⟩ = check.evaluate ⟨reference, settings⟩ := by
    intro check hmem
    simp only [builtin, List.mem_cons, List.not_mem_nil, or_false] at hmem
    rcases hmem with rfl | rfl
    · rfl
    · simp only [supportedPlatform, ofVerdict, platformVerdict, h]
  funext scope
  simp only [engine, evaluateAll_of_agree (hchecks _), h]

end Check

namespace Run

open Pyxis (Request Token)
open Check (withOptionsMade)
open Config (RunConfiguration Settings)

variable {given : Token} {config : RunConfiguration} {settings other : Settings}
  {context : Context Machine} {image : String} {machine : Machine}

theorem engineFor_withToken :
    engineFor image (config.withToken given) = engineFor image config := by
  refine Check.engine_of_platform ?_ _ _
  rw [Check.EngineSettings.ofOptions_optionsFor, Check.EngineSettings.ofOptions_optionsFor,
    RunConfiguration.withToken]

/-- Whether results are submitted depends on the token only by whether there is one. -/
theorem submitting_withToken_iff (hempty : given.secret = "" ↔ config.apiToken.secret = "") :
    Submitting (config.withToken given) ↔ Submitting config :=
  ⟨fun h => ⟨h.wished, h.identified, fun hnone => h.authorized (hempty.mpr hnone)⟩,
    fun h => ⟨h.wished, h.identified, fun hnone => h.authorized (hempty.mp hnone)⟩⟩

/-- What becomes of the results goes alike for two tokens that can be sent. -/
theorem submit_matches (hempty : given.secret = "" ↔ config.apiToken.secret = "")
    (hsame : given.isSendable = config.apiToken.isSendable) (earlier : List Request)
    {scope : Check.Scope Machine} {place : ArtifactsWriter Machine}
    (hbound : scope.artifacts = some place) :
    Action.Matches (Machine.Alike config.apiToken given earlier)
      ((Submission.resolve (Submission.clientFor config) config).submitter.submit scope)
      ((Submission.resolve (Submission.clientFor (config.withToken given))
        (config.withToken given)).submitter.submit scope) := by
  have hsubmitting := submitting_withToken_iff hempty
  rcases Submission.resolve_cases config with ⟨hwith, hservice⟩ | ⟨hwithout, told, hnothing⟩
  · obtain ⟨-, hother⟩ | ⟨hnot, -⟩ := Submission.resolve_cases (config.withToken given)
    · rw [hservice, hother, Submission.submit_of_bound hbound, Submission.submit_of_bound hbound]
      have hservice : given.isSendable = (serviceFor config).client.token.isSendable := hsame
      exact ServiceSubmission.run_matches hservice place.path
    · exact absurd (hsubmitting.mpr hwith) hnot
  · obtain ⟨hwith, -⟩ | ⟨-, told', hother⟩ := Submission.resolve_cases (config.withToken given)
    · exact absurd (hsubmitting.mp hwith) hwithout
    · rw [hnothing, hother]
      exact .pure ()

/-- A run that is not made ready with one token is not with another, for the same reason. -/
theorem prepare_eq_error_of_agree (hagree : settings.AgreeButToken other) {cause : RunError}
    {started : Machine} (h : prepare context image settings machine = (.error cause, started)) :
    prepare context image other machine = (.error cause, started) := by
  cases hlogger : context.logger with
  | none =>
    simp only [prepare, hlogger, Option.isNone_none, if_true] at h ⊢
    exact h
  | some logger =>
    simp only [prepare, hlogger, Option.isNone_some, Bool.false_eq_true, if_false] at h ⊢
    rw [RunConfiguration.ofSettings_of_agree hagree]
    cases hconfig : RunConfiguration.ofSettings settings with
    | error told =>
      rw [hconfig] at h
      exact h
    | ok config =>
      rw [hconfig] at h
      rcases Action.bind_eq_error.mp h with hfails | ⟨_, _, hok, hrest⟩
      · cases hfails
      · cases hok
        refine Action.bind_eq_error.mpr (.inr ⟨_, _, rfl, ?_⟩)
        rcases Action.bind_eq_error.mp hrest with hmake | ⟨path, between, hmake, hlater⟩
        · exact Action.bind_eq_error.mpr (.inl hmake)
        · refine Action.bind_eq_error.mpr (.inr ⟨path, between, hmake, ?_⟩)
          rcases Action.bind_eq_error.mp hlater with hformat | ⟨_, _, -, hlast⟩
          · exact Action.bind_eq_error.mpr (.inl hformat)
          · cases (Action.ending_inj.mp hlast).1

/-- Runs with two tokens go alike where both are there or neither, and both can be sent or
neither. -/
theorem checkContainer_of_agree (hagree : settings.AgreeButToken other) {token : Token}
    (htoken : token = ⟨settings.getText .apiToken⟩) (hgiven : given = ⟨other.getText .apiToken⟩)
    (hempty : given.secret = "" ↔ token.secret = "") (hsame : given.isSendable = token.isSendable)
    (context : Context Machine) (image : String) (machine : Machine) :
    (checkContainer context image settings machine).1 =
        (checkContainer context image other machine).1 ∧
      Machine.Alike token given machine.network.attempted
        (checkContainer context image settings machine).2
        (checkContainer context image other machine).2 := by
  rcases hprepare : prepare context image settings machine with ⟨cause | prepared, started⟩
  · have hnetwork : started.network = machine.network :=
      (prepare_preserves_network context image settings).of_run hprepare rfl
    rw [checkContainer, checkContainer, Action.bind_of_error hprepare,
      Action.bind_of_error (prepare_eq_error_of_agree hagree hprepare), ← hnetwork]
    exact ⟨rfl, .refl token given started⟩
  · obtain ⟨hlogs, config, artifacts, files, format, hrenders, hmade, hknown, rfl, rfl⟩ :=
      (prepare_eq_ok_iff image).mp hprepare
    have hother := (prepare_eq_ok_iff image).mpr ⟨hlogs, config.withToken given, artifacts, files,
      format, by rw [RunConfiguration.ofSettings_of_agree hagree, hrenders, hgiven]; rfl, hmade,
      hknown, rfl, rfl⟩
    obtain rfl : token = config.apiToken := by
      obtain ⟨-, -, -, -, hconfig⟩ := RunConfiguration.ofSettings_eq_ok_iff.mp hrenders
      rw [hconfig, htoken]
    rw [checkContainer, checkContainer, Action.bind_of_ok hprepare, Action.bind_of_ok hother]
    let submitter := (Submission.resolve (Submission.clientFor ((withOptionsMade config).withToken
      given)) ((withOptionsMade config).withToken given)).submitter
    have hwork : workFor image (config.withToken given) format =
        { workFor image config format with submitter } := by
      rw [workFor, engineFor_withToken]
      rfl
    have hsubmit : Action.Matches
        (Machine.Alike config.apiToken given machine.network.attempted)
        ((workFor image config format).submitter.submit (directoryScope context artifacts))
        (submitter.submit (directoryScope context artifacts)) :=
      submit_matches (show given.secret = "" ↔ (withOptionsMade config).apiToken.secret = "" from
        hempty) hsame _ (directoryScope_artifacts _ _)
    have hperform := @perform_of_submitters Machine (directoryScope context artifacts)
      (workFor image config format) ⟨config.junit, (withOptionsMade config).submit⟩
      (Machine.directoryWriter artifacts) (Machine.HasNetwork machine.network)
      (Machine.Alike config.apiToken given machine.network.attempted) submitter
      { machine with files } rfl (check_preserves_network image config) persist_preserves_network
      (fun state hstate => hstate ▸ .refl config.apiToken given state) hsubmit rfl
    rw [← hwork] at hperform
    exact hperform

/-- The token shows nowhere but in the headers of requests. Of two runs that differ only in the
token, where both tokens are there and can be sent, the second gives the same outcome or fails with
the same error. It leaves the machine as the first does, with all its files, but for the requests
that it made: they have the same methods, addresses and bodies, in the same order, and each request
of either run carries the token of that run. -/
theorem token_only_in_headers (context : Context Machine) (image : String) (machine : Machine)
    {settings other : Settings} (hagree : settings.AgreeButToken other)
    (htoken : settings.getText .apiToken ≠ "") (hother : other.getText .apiToken ≠ "")
    (hsendable : Token.isSendable ⟨settings.getText .apiToken⟩ = true)
    (hothers : Token.isSendable ⟨other.getText .apiToken⟩ = true) :
    ∃ outcome after made, checkContainer context image settings machine = (outcome, after) ∧
      checkContainer context image other machine = (outcome,
        { after with network := { after.network with
            attempted := machine.network.attempted ++
              made.map (Request.withToken · ⟨other.getText .apiToken⟩) } }) ∧
      after.network.attempted = machine.network.attempted ++ made ∧
      ∀ request ∈ made, request.token = ⟨settings.getText .apiToken⟩ := by
  obtain ⟨houtcome, halike⟩ := checkContainer_of_agree hagree rfl rfl
    (iff_of_false hother htoken) (hothers.trans hsendable.symm) context image machine
  rcases hfirst : checkContainer context image settings machine with ⟨outcome, after⟩
  rcases hsecond : checkContainer context image other machine with ⟨same, ⟨files, network, _, _⟩⟩
  rw [hfirst, hsecond] at houtcome halike
  obtain rfl : outcome = same := houtcome
  obtain ⟨rfl, rfl, rfl, hnetwork⟩ := halike
  obtain ⟨reaches, answers, attempted⟩ := network
  obtain ⟨rfl, rfl, made, htokens, hattempted, rfl⟩ := hnetwork
  exact ⟨outcome, after, made, rfl, rfl, hattempted, htokens⟩

/-- Settings for a submission with a token. -/
def submittingSettings (token : String) : Settings :=
  (((Settings.fresh.force .submit (.switch true)).force .projectId (.text "id")).force .host
    (.text "host")).force .apiToken (.text token)

/-- A machine without files, over whose network the first answer is lost. -/
def silentMachine : Machine :=
  ⟨⟨[], []⟩, ⟨fun _ => true, [.dropped], []⟩, .quiet, ""⟩

/-- Two submissions of one image ask for the project, each with its own token, and as no answer
comes they fail with the same error. -/
theorem token_only_in_headers_of_submissions :
    let context : Context Machine := ⟨some ⟨none⟩, 0, none, none⟩
    let settings := submittingSettings "alpha"
    let other := submittingSettings "beta"
    settings.AgreeButToken other ∧ settings.getText .apiToken ≠ "" ∧
      other.getText .apiToken ≠ "" ∧ Token.isSendable ⟨settings.getText .apiToken⟩ = true ∧
      Token.isSendable ⟨other.getText .apiToken⟩ = true ∧
      ∃ outcome after request, checkContainer context "image" settings silentMachine =
          (outcome, after) ∧
        checkContainer context "image" other silentMachine = (outcome,
          { after with network := { after.network with
              attempted := [request.withToken ⟨"beta"⟩] } }) ∧
        after.network.attempted = [request] ∧ request.token = ⟨"alpha"⟩ := by
  intro context settings other
  have hagree : settings.AgreeButToken other := by
    intro key hkey
    cases key with
    | apiToken => exact absurd rfl hkey
    | _ => rfl
  have htoken : settings.getText .apiToken ≠ "" := by decide
  have hother : other.getText .apiToken ≠ "" := by decide
  have hsendable : Token.isSendable ⟨settings.getText .apiToken⟩ = true := by decide +kernel
  have hothers : Token.isSendable ⟨other.getText .apiToken⟩ = true := by decide +kernel
  obtain ⟨outcome, after, made, hfirst, hsecond, hattempted, htokens⟩ :=
    token_only_in_headers context "image" silentMachine hagree htoken hother hsendable hothers
  have hcount : (checkContainer context "image" settings
      silentMachine).2.network.attempted.length = 1 := by
    decide +kernel
  rw [hfirst, hattempted, List.length_append] at hcount
  obtain ⟨request, rfl⟩ : ∃ request, made = [request] :=
    List.length_eq_one_iff.mp (Nat.add_left_cancel (n := 0) hcount)
  exact ⟨hagree, htoken, hother, hsendable, hothers, outcome, after, request, hfirst, hsecond,
    hattempted, htokens request List.mem_cons_self⟩

end Run
end ContainerCert
