import ContainerCert.Proofs.MachineFiles
import ContainerCert.Proofs.ReportDocuments
import ContainerCert.Proofs.RunStages
import ContainerCert.Proofs.ServiceRequests

/-!
# What a submission hands over

The results reach the service by way of a file that is shared with earlier runs. A run that
submits writes that file anew, whatever format it shows its results in and whatever the file held
before, and nothing that is written between this and the submission changes it. So what is handed
over is made of the results of the same run.
-/

namespace ContainerCert.Run

open Check (Engine Scope)
open Files
open Pyxis (Client Upload)
open Report (Format Response Results)

variable {machine saved : Machine}

/-- The document that is read for a submission, in a directory. -/
def resultsDocument (artifacts : String) : Document :=
  ⟨Path.join artifacts "results.json", Format.json.formatter⟩

/-- A run that submits saves the document that is read for it, and after it at most the results as
JUnit XML. -/
theorem documents_of_submit (artifacts : String) (format : Format) (junit : Bool) :
    ∃ before, documents artifacts format.formatter ⟨junit, true⟩ =
      before ++ resultsDocument artifacts :: if junit then
        [⟨Path.join artifacts "results-junit.xml", Format.junit.formatter⟩] else [] := by
  cases format with
  | json => exact ⟨[], rfl⟩
  | junit => exact ⟨[_], rfl⟩
  | table => exact ⟨[_], rfl⟩

/-- Once the documents of a run that submits are saved, the file that is read for the submission
holds the results of this run, whatever format they are shown in. -/
theorem holds_of_saved {artifacts : String} {format : Format} {junit : Bool} {results : Results}
    (h : (documents artifacts format.formatter ⟨junit, true⟩).forM
      (Document.save machineWriter results) machine = (.ok (), saved)) :
    saved.Holds (resultsDocument artifacts).path (Format.renderJson results).toUTF8 := by
  obtain ⟨before, hdocuments⟩ := documents_of_submit artifacts format junit
  rw [hdocuments] at h
  obtain ⟨started, -, hlater⟩ := Action.forM_append_eq_ok.mp h
  rw [Action.forM_cons] at hlater
  obtain ⟨⟨⟩, between, hresults, hlast⟩ := Action.bind_eq_ok.mp hlater
  have hrender : (resultsDocument artifacts).formatter.render results =
      .ok (Format.renderJson results).toUTF8 := rfl
  rw [Document.save_of_render hrender] at hresults
  have hholds := holds_of_persist hresults
  cases junit with
  | false =>
    obtain ⟨-, rfl⟩ := Action.ending_inj.mp hlast
    exact hholds
  | true =>
    have hother : (FileTree.segments (Path.join artifacts "results-junit.xml")).getLast? ≠
        (FileTree.segments (resultsDocument artifacts).path).getLast? := by
      rw [FileTree.segments_join_getLast? artifacts (by decide), resultsDocument,
        FileTree.segments_join_getLast? artifacts (by decide)]
      decide
    rw [if_pos rfl, Action.forM_cons] at hlast
    obtain ⟨⟨⟩, after, hjunit, hdone⟩ := Action.bind_eq_ok.mp hlast
    obtain ⟨-, rfl⟩ := Action.ending_inj.mp hdone
    obtain ⟨content, -, hpersist⟩ := Document.exists_persist_of_save hjunit
    exact (persist_preserves_holds hother content).of_run hpersist hholds

/-- What is read for a submission from such a file is the document for users. -/
theorem readResults_of_holds {artifacts : String} {results : Results}
    (h : saved.Holds (resultsDocument artifacts).path (Format.renderJson results).toUTF8) :
    readResults artifacts saved.files = .ok (Response.ofResults results .this) := by
  have hread : saved.files.read (Path.join artifacts (resultsName "json")) =
      .ok (Format.renderJson results).toUTF8 := FileTree.Holds.read h
  rw [readResults, hread]
  simp only [bind, Except.bind, Action.mapError_ok, documentText_toUTF8,
    Report.decodeText_renderJson]

/-- Those who do the work of a run that hands its results over to the service. -/
def submittingWork (engine : Engine Machine) (format : Format) (submission : ServiceSubmission) :
    Collaborators Machine where
  engine := engine
  formatter := format.formatter
  writer := machineWriter
  submitter := (Submission.service submission).submitter

/-- The request that hands over the results of a run, with the project in front. -/
def resultsRequest (client : Client) (results : Results) : Pyxis.Request :=
  client.postRequest "test-results"
    (.object (("cert_project", .text client.projectId) ::
      (Response.ofResults results .this).fields))

/-- A run that submits hands over the results that its engine gave, with the project in front and
otherwise as the document for users has them, whatever the files hold before, and in whatever
format it shows them. It does so at most once, after it asked for the project; all that it may send
after this is the log file. Where its documents are saved and the service names the project, it
does so. -/
theorem submitted_results {scope : Scope Machine} {place : ArtifactsWriter Machine}
    {engine : Engine Machine} {results : Results} {machine checked : Machine}
    (hbound : scope.artifacts = some place)
    (hengine : engine scope machine = (.ok results, checked)) (format : Format) (junit : Bool)
    (submission : ServiceSubmission) :
    ∃ later,
      ((perform scope (submittingWork engine format submission) ⟨junit, true⟩).after
        machine).network.attempted = checked.network.attempted ++ later ∧
      (later = [] ∨ later = [submission.client.projectRequest] ∨
        ∃ last, later = submission.client.projectRequest ::
            resultsRequest submission.client results :: last ∧
          (last = [] ∨
            ∃ file : Upload, last = [submission.client.postRequest "artifacts" file.toJson])) ∧
      (∀ saved project, (documents place.path format.formatter ⟨junit, true⟩).forM
          (Document.save machineWriter results) checked = (.ok (), saved) →
        (submission.client.getProject checked.network).1 = .ok project →
        resultsRequest submission.client results ∈ later) := by
  have hchecked : check scope engine machine = (.ok results, checked) :=
    check_eq_ok_iff.mpr hengine
  have hsaves := Action.Preserves.forM
    (Document.save_preserves (@persist_preserves_network checked.network) results)
    (documents place.path format.formatter ⟨junit, true⟩)
  rcases hdocuments : (documents place.path format.formatter ⟨junit, true⟩).forM
    (Document.save machineWriter results) checked with ⟨cause | _, saved⟩
  · -- A document that is not saved ends the run before anything is asked.
    have hnetwork : saved.network = checked.network := hsaves.of_run hdocuments rfl
    refine ⟨[], ?_, .inl rfl, fun _ _ h => by simp at h⟩
    rw [Action.after, perform_apply hbound, submittingWork, hchecked]
    simp only [forM_stages, Action.bind_of_error hdocuments, hnetwork, List.append_nil]
  · have hnetwork : saved.network = checked.network := hsaves.of_run hdocuments rfl
    have hafter := @after_perform_of_saved Machine scope
      (submittingWork engine format submission) ⟨junit, true⟩ place hbound rfl results machine
      checked saved hchecked hdocuments
    have hread := readResults_of_holds (holds_of_saved hdocuments)
    obtain ⟨later, hlater, hcases⟩ := submission.run_attempted place.path saved
    rw [hread, hnetwork] at hcases
    refine ⟨submission.client.projectRequest :: later, ?_, ?_⟩
    · rw [Action.after, hafter, submittingWork, Submission.submit_of_bound hbound, hlater, hnetwork]
    · rcases hcases with ⟨project, response, last, hproject, hresponse, rfl, hlast⟩ | ⟨rfl, hnot⟩
      · cases hresponse
        refine ⟨.inr (.inr ⟨last, rfl, hlast⟩), fun _ _ _ _ => ?_⟩
        exact List.mem_cons_of_mem _ List.mem_cons_self
      · refine ⟨.inr (.inl rfl), fun _ project _ hproject => ?_⟩
        exact absurd rfl (hnot project _ hproject)

/-- A machine with results of an earlier run that are no document. -/
def staleMachine : Machine where
  files := ⟨[(["out"], .directory), (["out", "results.json"], .file "old".toUTF8)], []⟩
  network := ⟨fun _ => true, [], []⟩
  signals := .quiet
  timestamp := ""

/-- What surrounds a run with its artifacts beside those results. -/
def staleScope : Scope Machine :=
  ⟨pure false, some (Machine.directoryWriter "/out")⟩

/-- A submission to a service that names every project. -/
def namedSubmission : ServiceSubmission := ⟨⟨"host", ⟨"secret"⟩, "id"⟩, "", "log"⟩

/-- Results of this run are handed over in the place of those that were there. -/
theorem submitted_results_over_stale :
    staleScope.artifacts = some (Machine.directoryWriter "/out") ∧
      resultsRequest namedSubmission.client (Results.empty "image" "amd64") ∈
        ((perform staleScope (submittingWork (fun _ => pure (Results.empty "image" "amd64")) .table
          namedSubmission) ⟨true, true⟩).after staleMachine).network.attempted := by
  refine ⟨rfl, ?_⟩
  obtain ⟨later, hlater, -, hsent⟩ := @submitted_results staleScope (Machine.directoryWriter "/out")
    (fun _ => pure (Results.empty "image" "amd64")) (Results.empty "image" "amd64") staleMachine
    staleMachine rfl rfl .table true namedSubmission
  have hsaved : Action.result ((documents (Machine.directoryWriter "/out").path
      Format.table.formatter ⟨true, true⟩).forM
        (Document.save machineWriter (Results.empty "image" "amd64"))) staleMachine = .ok () := by
    decide +kernel
  have hnamed : (namedSubmission.client.getProject staleMachine.network).1 = .ok ⟨"", "", ""⟩ := by
    decide +kernel
  rw [hlater]
  exact List.mem_append_right _ (hsent _ _ (Action.apply_of_result hsaved) hnamed)

end ContainerCert.Run
