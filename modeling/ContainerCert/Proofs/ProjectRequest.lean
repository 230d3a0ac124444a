import ContainerCert.Proofs.EngineRuns
import ContainerCert.Proofs.RunStages
import ContainerCert.Proofs.ServiceRequests
import ContainerCert.Proofs.SettingsSources
import ContainerCert.Run.Container

/-!
# When the service is asked for the project

Whether a run talks to the service is decided in several places: by the configuration, by the
options of the engine, which turn the submission off over an insecure connection, by the client,
which needs both credentials, and by every stage of the run before the submission. All of them
together are exactly what it takes for the first request, which asks for the project.
-/

namespace ContainerCert.Run

open Check (EngineSettings optionsFor withOptionsMade)
open Config (RunConfiguration Settings)
open Files
open Pyxis (Client)
open Report (Format Results)

/-- The client that has the credentials of a configuration. -/
def clientOf (config : RunConfiguration) : Client :=
  ⟨config.host, config.apiToken, config.projectId⟩

/-- The submission of a configuration to the service. -/
def serviceFor (config : RunConfiguration) : ServiceSubmission :=
  ⟨clientOf config, config.dockerConfig, config.logFile⟩

/-- What the configuration itself must say for its results to be taken. -/
structure Submitting (config : RunConfiguration) : Prop where
  wished : config.submit = true
  identified : config.projectId ≠ ""
  authorized : config.apiToken.secret ≠ ""

/-- Results are taken for the service exactly when they are to be submitted and both credentials
are there. -/
theorem Submission.resolve_cases (config : RunConfiguration) :
    (Submitting config ∧
      Submission.resolve (Submission.clientFor config) config = .service (serviceFor config)) ∨
    (¬ Submitting config ∧
      ∃ told, Submission.resolve (Submission.clientFor config) config = .nothing told) := by
  by_cases hid : config.projectId = ""
  · right
    refine ⟨fun h => h.identified hid, ?_⟩
    simp [Submission.clientFor, Submission.resolve, hid]
  · by_cases htoken : config.apiToken.secret = ""
    · right
      refine ⟨fun h => h.authorized htoken, ?_⟩
      simp [Submission.clientFor, Submission.resolve, Pyxis.Token.isEmpty, htoken]
    · have hclient : Submission.clientFor config = some (clientOf config) := by
        simp [Submission.clientFor, Pyxis.Token.isEmpty, hid, htoken, clientOf]
      rw [hclient]
      cases hwish : config.submit with
      | false =>
        right
        refine ⟨fun h => Bool.noConfusion (hwish.symm.trans h.wished), ?_⟩
        simp [Submission.resolve, hwish]
      | true =>
        left
        exact ⟨⟨hwish, hid, htoken⟩, by simp [Submission.resolve, hwish, serviceFor]⟩

/-- A run made ready from the settings it was made of. -/
def Prepared.of (context : Context Machine) (image : String) (config : RunConfiguration)
    (artifacts : String) (format : Format) : Prepared where
  context := context.withArtifacts (Machine.directoryWriter artifacts)
  config := withOptionsMade config
  artifacts := artifacts
  image := image
  engine := EngineSettings.ofOptions (optionsFor config)
  format := format
  submission :=
    Submission.resolve (Submission.clientFor (withOptionsMade config)) (withOptionsMade config)

/-- A run is made ready exactly when there is a logger, the configuration renders, the directory
for artifacts is made, and the format is known. -/
theorem prepare_eq_ok_iff {context : Context Machine} (image : String) {settings : Settings}
    {machine started : Machine} {prepared : Prepared} :
    prepare context image settings machine = (.ok prepared, started) ↔
      context.logger.isSome = true ∧ ∃ config artifacts files format,
        RunConfiguration.ofSettings settings = .ok config ∧
        Artifacts.makeDirectory config.artifacts machine.files = (.ok artifacts, files) ∧
        Format.ofName config.responseFormat = .ok format ∧
        prepared = .of context image config artifacts format ∧
        started = { machine with files } := by
  cases hlogger : context.logger with
  | none => simp [prepare, hlogger]
  | some logger =>
    simp only [prepare, hlogger, Option.isNone_some, Bool.false_eq_true, if_false,
      Option.isSome_some, true_and]
    constructor
    · intro hprepared
      obtain ⟨config, rendered, hconfig, hrest⟩ := Action.bind_eq_ok.mp hprepared
      obtain ⟨artifacts, made, hmake, hlater⟩ := Action.bind_eq_ok.mp hrest
      obtain ⟨format, chosen, hformat, hlast⟩ := Action.bind_eq_ok.mp hlater
      obtain ⟨hrenders, rfl⟩ := Action.ending_inj.mp hconfig
      simp only [Machine.onFiles, Action.within_apply, Action.mapError_apply, Action.ending_inj,
        Action.mapError_eq_ok] at hmake
      obtain ⟨hmade, rfl⟩ := hmake
      obtain ⟨hknown, rfl⟩ := Action.ending_inj.mp hformat
      obtain ⟨hequal, rfl⟩ := Action.ending_inj.mp hlast
      exact ⟨config, artifacts, _, format, Action.mapError_eq_ok.mp hrenders, Prod.ext hmade rfl,
        Action.mapError_eq_ok.mp hknown, (Except.ok.inj hequal).symm, rfl⟩
    · rintro ⟨config, artifacts, files, format, hrenders, hmade, hknown, rfl, rfl⟩
      refine Action.bind_eq_ok.mpr ⟨config, machine, ?_, ?_⟩
      · simp [hrenders]
      refine Action.bind_eq_ok.mpr ⟨artifacts, { machine with files }, ?_, ?_⟩
      · simp [Machine.onFiles, hmade]
      refine Action.bind_eq_ok.mpr ⟨format, { machine with files }, ?_, rfl⟩
      simp [hknown]

variable {network : Pyxis.Network}

/-- Making a run ready leaves the network alone. -/
theorem prepare_preserves_network (context : Context Machine) (image : String)
    (settings : Settings) :
    (prepare context image settings).Preserves (Machine.HasNetwork network) := by
  cases hlogger : context.logger with
  | none =>
    intro machine hmachine
    simpa [prepare, hlogger, Action.bind_apply] using hmachine
  | some logger =>
    simp only [prepare, hlogger, Option.isNone_some, Bool.false_eq_true, if_false]
    exact .bind (.ofExcept _) fun config =>
      .bind (Machine.onFiles_preserves_network _) fun artifacts =>
        .bind (.ofExcept _) fun format => .pure _

/-- What surrounds a run whose artifacts go into a directory. -/
def directoryScope (context : Context Machine) (artifacts : String) : Check.Scope Machine :=
  Machine.scope (context.withArtifacts (Machine.directoryWriter artifacts))

theorem directoryScope_artifacts (context : Context Machine) (artifacts : String) :
    (directoryScope context artifacts).artifacts = some (Machine.directoryWriter artifacts) := rfl

/-- The engine of a run for an image with a configuration. -/
def engineFor (image : String) (config : RunConfiguration) : Check.Engine Machine :=
  Check.engine Machine.clock image (EngineSettings.ofOptions (optionsFor config)) Check.builtin

/-- All that it takes for a run to ask for its project: logging is set up, the configuration
renders, the directory for artifacts is made, the format is known, the engine gives results, all
documents are saved, and the configuration submits over a connection that is not insecure. -/
structure AsksForProject (context : Context Machine) (image : String) (settings : Settings)
    (machine : Machine) (config : RunConfiguration) : Prop where
  logs : context.logger.isSome = true
  renders : RunConfiguration.ofSettings settings = .ok config
  works : ∃ artifacts files format results checked saved,
    Artifacts.makeDirectory config.artifacts machine.files = (.ok artifacts, files) ∧
    Format.ofName config.responseFormat = .ok format ∧
    engineFor image config (directoryScope context artifacts) { machine with files } =
      (.ok results, checked) ∧
    (documents artifacts format.formatter ⟨config.junit, true⟩).forM
      (Document.save machineWriter results) checked = (.ok (), saved)
  submits : Submitting config
  secure : config.insecure = false

/-- A configuration submits once its options are made exactly when it does before and the
connection is not insecure. -/
theorem submitting_withOptionsMade_iff (config : RunConfiguration) :
    Submitting (withOptionsMade config) ↔ Submitting config ∧ config.insecure = false := by
  constructor
  · rintro ⟨hwished, hid, htoken⟩
    obtain ⟨hsubmit, hsecure⟩ := Bool.and_eq_true_iff.mp hwished
    exact ⟨⟨hsubmit, hid, htoken⟩, by simpa using hsecure⟩
  · rintro ⟨⟨hsubmit, hid, htoken⟩, hsecure⟩
    exact ⟨by simp [withOptionsMade, hsubmit, hsecure], hid, htoken⟩

/-- Those who do the work of a run with a configuration. -/
def workFor (image : String) (config : RunConfiguration) (format : Format) :
    Collaborators Machine where
  engine := engineFor image config
  formatter := format.formatter
  writer := machineWriter
  submitter := (Submission.resolve (Submission.clientFor (withOptionsMade config))
    (withOptionsMade config)).submitter

variable {context : Context Machine} {image : String} {settings : Settings} {machine : Machine}
  {config : RunConfiguration} {artifacts : String} {files : FileTree} {format : Format}

/-- A run that was made ready goes on from the files with the directory for artifacts. -/
theorem checkContainer_after (hlogs : context.logger.isSome = true)
    (hrenders : RunConfiguration.ofSettings settings = .ok config)
    (hmade : Artifacts.makeDirectory config.artifacts machine.files = (.ok artifacts, files))
    (hknown : Format.ofName config.responseFormat = .ok format) :
    (checkContainer context image settings).after machine =
      (perform (directoryScope context artifacts) (workFor image config format)
        ⟨config.junit, (withOptionsMade config).submit⟩ { machine with files }).2 := by
  have hprepared := (prepare_eq_ok_iff image).mpr
    ⟨hlogs, config, artifacts, files, format, hrenders, hmade, hknown, rfl, rfl⟩
  exact congrArg Prod.snd (Action.bind_of_ok hprepared _)

/-- The engine of a run, and the look at the signals after it failed, leave the network alone. -/
theorem check_preserves_network (image : String) (config : RunConfiguration) :
    (check (directoryScope context artifacts) (engineFor image config)).Preserves
      (Machine.HasNetwork network) :=
  check_preserves (Check.engine_preserves_network context image _ artifacts) fun _ h => h

/-- Where everything is there, the first request of the run asks for the project. -/
theorem AsksForProject.attempted (h : AsksForProject context image settings machine config) :
    ∃ later, ((checkContainer context image settings).after machine).network.attempted =
      machine.network.attempted ++ (clientOf config).projectRequest :: later := by
  obtain ⟨artifacts, files, format, results, checked, saved, hmade, hknown, hengine, hsaved⟩ :=
    h.works
  have hready := (submitting_withOptionsMade_iff config).mpr ⟨h.submits, h.secure⟩
  have hchecked : check (directoryScope context artifacts) (engineFor image config)
      { machine with files } = (.ok results, checked) := check_eq_ok_iff.mpr hengine
  have hworked : checked.HasNetwork machine.network :=
    (check_preserves_network image config).of_run hchecked rfl
  have hnetwork : saved.network = machine.network :=
    (Action.Preserves.forM (Document.save_preserves persist_preserves_network results) _).of_run
      hsaved hworked
  have hafter := @after_perform_of_saved Machine (directoryScope context artifacts)
    (workFor image config format) ⟨config.junit, true⟩ (Machine.directoryWriter artifacts) rfl rfl
    results { machine with files } checked saved hchecked hsaved
  rw [checkContainer_after h.logs h.renders hmade hknown, hready.wished, hafter, workFor]
  rcases Submission.resolve_cases (withOptionsMade config) with ⟨-, hservice⟩ | ⟨hnot, -⟩
  · obtain ⟨later, hlater, -⟩ :=
      (serviceFor (withOptionsMade config)).run_attempted artifacts saved
    have hsubmit : (Submission.service (serviceFor (withOptionsMade config))).submitter.submit
        (directoryScope context artifacts) = (serviceFor (withOptionsMade config)).run artifacts :=
      @Submission.submit_of_bound _ (Machine.directoryWriter artifacts) rfl _
    rw [hservice, hsubmit]
    exact ⟨later, by rw [hlater, hnetwork]; rfl⟩
  · exact absurd hready hnot

/-- A run that attempts a request has everything that it takes. -/
theorem asksForProject_of_attempted_ne
    (h : ((checkContainer context image settings).after machine).network.attempted ≠
      machine.network.attempted) :
    ∃ config, AsksForProject context image settings machine config := by
  rcases hprepare : prepare context image settings machine with ⟨cause | prepared, started⟩
  · refine absurd ?_ h
    have hnetwork : started.network = machine.network :=
      (prepare_preserves_network context image settings).of_run hprepare rfl
    rw [checkContainer, Action.after, Action.bind_of_error hprepare, hnetwork]
  · obtain ⟨hlogs, config, artifacts, files, format, hrenders, hmade, hknown, rfl, rfl⟩ :=
      (prepare_eq_ok_iff image).mp hprepare
    refine ⟨config, ?_⟩
    rw [checkContainer_after hlogs hrenders hmade hknown] at h
    by_contra hlacks
    have hkept := @perform_preserves_of_not_saved Machine (directoryScope context artifacts)
      (workFor image config format) ⟨config.junit, (withOptionsMade config).submit⟩
      (Machine.directoryWriter artifacts) (Machine.HasNetwork machine.network) rfl
      { machine with files } rfl (check_preserves_network image config) persist_preserves_network
    rcases Submission.resolve_cases (withOptionsMade config) with ⟨hready, -⟩ | ⟨-, told, hnothing⟩
    · obtain ⟨hsubmits, hsecure⟩ := (submitting_withOptionsMade_iff config).mp hready
      rw [hready.wished] at h hkept
      refine h (congrArg Pyxis.Network.attempted (hkept ?_))
      intro results checked saved hchecked hsaved
      exact absurd ⟨hlogs, hrenders, ⟨artifacts, files, format, results, checked, saved, hmade,
        hknown, check_eq_ok_iff.mp hchecked, hsaved⟩, hsubmits, hsecure⟩ hlacks
    · have hidle : ((workFor image config format).submitter.submit
          (directoryScope context artifacts)).Preserves (Machine.HasNetwork machine.network) := by
        rw [workFor, hnothing]
        exact .pure ()
      have hkept' := @perform_preserves Machine (directoryScope context artifacts)
        (workFor image config format) ⟨config.junit, (withOptionsMade config).submit⟩
        (Machine.directoryWriter artifacts) (Machine.HasNetwork machine.network) rfl
        (check_preserves_network image config) persist_preserves_network hidle
      exact h (congrArg Pyxis.Network.attempted (hkept' { machine with files } rfl))

/-- A run makes a request exactly when everything that it takes is there, and then the first one
asks for the project. The engine gives results when the run is not cancelled at its last look, the
image reference parses, and the reference is written as an artifact. Over an insecure connection
nothing is ever asked. -/
theorem checkContainer_attempted (context : Context Machine) (image : String)
    (settings : Settings) (machine : Machine) :
    (((checkContainer context image settings).after machine).network.attempted ≠
        machine.network.attempted ↔
      ∃ config, AsksForProject context image settings machine config) ∧
    (∀ config, AsksForProject context image settings machine config →
      ∃ later, ((checkContainer context image settings).after machine).network.attempted =
        machine.network.attempted ++ (clientOf config).projectRequest :: later) ∧
    (∀ config artifacts files,
      (∃ results checked, engineFor image config (directoryScope context artifacts)
        { machine with files } = (.ok results, checked)) ↔
      context.isCancelled (Signals.advance^[5] machine.signals) = false ∧
      ∃ reference path written, Image.Reference.parse image = .ok reference ∧
        Artifacts.writeFile artifacts Check.referenceArtifact
          reference.toJson.prettyText.toUTF8 files = (.ok path, written)) ∧
    (settings.getBool .insecure = .ok true →
      ((checkContainer context image settings).after machine).network.attempted =
        machine.network.attempted) := by
  have hasks : ((checkContainer context image settings).after machine).network.attempted ≠
      machine.network.attempted ↔
        ∃ config, AsksForProject context image settings machine config := by
    refine ⟨asksForProject_of_attempted_ne, ?_⟩
    rintro ⟨config, hconfig⟩ hsame
    obtain ⟨later, hlater⟩ := hconfig.attempted
    simp [hsame] at hlater
  refine ⟨hasks, fun config hconfig => hconfig.attempted, ?_, ?_⟩
  · intro config artifacts files
    exact Check.engine_eq_ok_iff context image _ artifacts { machine with files }
  · intro hinsecure
    by_contra hne
    obtain ⟨config, hconfig⟩ := hasks.mp hne
    have hresolved := (RunConfiguration.ofSettings_eq_ok_iff.mp hconfig.renders).2.2.1
    rw [hinsecure, hconfig.secure] at hresolved
    cases hresolved

end ContainerCert.Run
