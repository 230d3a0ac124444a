import ContainerCert.Proofs.Actions
import ContainerCert.Run.Basic

/-!
# The stages of a run

Once the engine has worked, a run goes through a list of stages that is known in advance: its
documents, each saved from the same results, and then the submission if there is one. A sequence
of stages goes through or stops at the first that fails.
-/

namespace ContainerCert.Run

open Check (Engine Scope)
open Files
open Report (Format Formatter Results)

variable {σ : Type}

/-- A document of a run: where it is saved, and what makes it of the results. -/
structure Document where
  path : String
  formatter : Formatter

/-- What a run does once the engine has worked. -/
inductive Stage where
  | document (file : Document)
  | submission

/-- The documents of a run, in the order in which they are saved. -/
def documents (artifacts : String) (formatter : Formatter) (extras : Extras) : List Document :=
  ⟨Path.join artifacts ("results." ++ formatter.extension), formatter⟩ ::
    ((if extras.submit && formatter.extension != "json" then
        [⟨Path.join artifacts "results.json", Format.json.formatter⟩] else []) ++
      if extras.junit then
        [⟨Path.join artifacts "results-junit.xml", Format.junit.formatter⟩] else [])

/-- The stages of a run: all documents, and after them the submission that is asked for. -/
def stages (artifacts : String) (formatter : Formatter) (extras : Extras) : List Stage :=
  (documents artifacts formatter extras).map .document ++
    if extras.submit then [.submission] else []

/-- Save a document made of results. -/
def Document.save (writer : ResultWriter σ) (results : Results) (document : Document) :
    Action σ RunError Unit := do
  let _ ← writeAs writer document.formatter document.path results

/-- Do one stage with the results of the engine. -/
def Stage.run (scope : Scope σ) (work : Collaborators σ) (results : Results) :
    Stage → Action σ RunError Unit
  | .document file => file.save work.writer results
  | .submission => (work.submitter.submit scope).mapError .submission

/-- A document is made before its file is opened, and then all of it is written. -/
theorem writeAs_apply (writer : ResultWriter σ) (formatter : Formatter) (path : String)
    (results : Results) (state : σ) :
    writeAs writer formatter path results state = match formatter.render results with
      | .error cause => (.error (.formatter cause), state)
      | .ok content => match persist writer path content state with
        | (.error cause, after) => (.error cause, after)
        | (.ok (), after) => (.ok content, after) := by
  simp only [writeAs, Action.bind_apply, Action.ofExcept_apply]
  cases formatter.render results with
  | error cause => rfl
  | ok content =>
    simp only [Action.mapError_ok]
    rcases persist writer path content state with ⟨_ | _, _⟩ <;> rfl

theorem Document.save_apply (writer : ResultWriter σ) (results : Results) (file : Document)
    (state : σ) :
    file.save writer results state = match file.formatter.render results with
      | .error cause => (.error (.formatter cause), state)
      | .ok content => persist writer file.path content state := by
  rw [save, Action.bind_apply, writeAs_apply]
  cases file.formatter.render results with
  | error cause => rfl
  | ok content =>
    simp only
    rcases persist writer file.path content state with ⟨_ | _, _⟩ <;> rfl

theorem Document.save_of_render {results : Results} {file : Document} {content : ByteArray}
    (h : file.formatter.render results = .ok content) (writer : ResultWriter σ) :
    file.save writer results = persist writer file.path content := by
  funext state
  rw [save_apply, h]

/-- A document that was saved could be made. -/
theorem Document.exists_persist_of_save {writer : ResultWriter σ} {results : Results}
    {file : Document} {state after : σ} (h : file.save writer results state = (.ok (), after)) :
    ∃ content, file.formatter.render results = .ok content ∧
      persist writer file.path content state = (.ok (), after) := by
  rw [save_apply] at h
  cases hrender : file.formatter.render results with
  | error cause => simp [hrender] at h
  | ok content => exact ⟨content, rfl, by simpa [hrender] using h⟩

variable {scope : Scope σ} {work : Collaborators σ} {extras : Extras} {place : ArtifactsWriter σ}

/-- What comes after the first document goes through the other stages in order. -/
theorem perform_eq (hbound : scope.artifacts = some place) :
    perform scope work extras = do
      let results ← check scope work.engine
      let output ← writeAs work.writer work.formatter
        (Path.join place.path ("results." ++ work.formatter.extension)) results
      (stages place.path work.formatter extras).tail.forM (Stage.run scope work results)
      return ⟨output, Path.join place.path ("results." ++ work.formatter.extension),
        results.passed⟩ := by
  simp only [perform, hbound, pure_bind, resultsName, junitName, stages, documents, List.map_cons,
    List.cons_append, List.tail_cons]
  congr 1
  funext results
  congr 1
  funext output
  cases extras.submit <;> cases extras.junit <;> cases work.formatter.extension != "json" <;>
    simp [Stage.run, Document.save, List.forM_cons, List.forM_nil]

/-- A run lets the engine work and goes through its stages; its outcome is what the first document
holds. -/
theorem perform_apply (hbound : scope.artifacts = some place) (state : σ) :
    perform scope work extras state = match check scope work.engine state with
      | (.error cause, after) => (.error cause, after)
      | (.ok results, checked) =>
        match (stages place.path work.formatter extras).forM (Stage.run scope work results)
            checked with
        | (.error cause, after) => (.error cause, after)
        | (.ok (), after) => match work.formatter.render results with
          | .error cause => (.error (.formatter cause), after)
          | .ok output =>
            (.ok ⟨output, Path.join place.path ("results." ++ work.formatter.extension),
              results.passed⟩, after) := by
  rw [perform_eq hbound, Action.bind_apply]
  rcases check scope work.engine state with ⟨cause | results, checked⟩
  · rfl
  · simp only [stages, documents, List.map_cons, List.cons_append, List.tail_cons, Action.forM_cons,
      Action.bind_apply, Stage.run, writeAs_apply, Document.save_apply]
    cases work.formatter.render results with
    | error cause => rfl
    | ok output =>
      simp only
      rcases persist work.writer _ output checked with ⟨cause | _, saved⟩
      · rfl
      · simp only
        rcases List.forM (m := Action σ RunError) _ (Stage.run scope work results) saved with
          ⟨_ | _, _⟩ <;> rfl

/-- Going through the documents as stages is saving them in order. -/
theorem forM_document (results : Results) (files : List Document) :
    (files.map Stage.document).forM (Stage.run scope work results) =
      files.forM (Document.save work.writer results) := by
  induction files with
  | nil => rfl
  | cons file files ih =>
    rw [List.map_cons, Action.forM_cons, ih]
    rfl

/-- The engine's results are passed on as they are. -/
theorem check_eq_ok_iff {engine : Engine σ} {results : Results} {state after : σ} :
    check scope engine state = (.ok results, after) ↔
      engine scope state = (.ok results, after) := by
  unfold check
  rcases engine scope state with ⟨cause | given, between⟩
  · rcases hcancelled : scope.isCancelled between with ⟨cancelled, later⟩
    cases cause <;> simp [hcancelled]
  · simp

/-- The engine, and the look at the signals after it failed, are all that a check does. -/
theorem check_preserves {good : σ → Prop} {engine : Engine σ}
    (hengine : (engine scope).Preserves good)
    (hlook : ∀ state, good state → good (scope.isCancelled state).2) :
    (check scope engine).Preserves good := by
  intro state hstate
  unfold check
  rcases hrun : engine scope state with ⟨cause | results, after⟩
  · cases cause with
    | cancelled => exact hengine.of_run hrun hstate
    | _ => exact hlook after (hengine.of_run hrun hstate)
  · exact hengine.of_run hrun hstate

/-- Where all stages went through, the first document was made. -/
theorem exists_render_of_stages {results : Results} {state after : σ}
    (h : (stages place.path work.formatter extras).forM (Stage.run scope work results) state =
      (.ok (), after)) : ∃ output, work.formatter.render results = .ok output := by
  rw [stages, documents, List.map_cons, List.cons_append, Action.forM_cons] at h
  obtain ⟨_, saved, hfirst, -⟩ := Action.bind_eq_ok.mp h
  obtain ⟨output, houtput, -⟩ := Document.exists_persist_of_save hfirst
  exact ⟨output, houtput⟩

/-- What all stages leave is what the submission leaves, once the documents are saved. -/
theorem forM_stages (artifacts : String) (formatter : Formatter) (results : Results) :
    (stages artifacts formatter extras).forM (Stage.run scope work results) =
      (documents artifacts formatter extras).forM (Document.save work.writer results) >>= fun _ =>
        if extras.submit then (work.submitter.submit scope).mapError .submission else pure () := by
  rw [stages, ← @forM_document σ scope work]
  cases extras.submit with
  | false => simp
  | true =>
    simp only [if_true]
    rw [Action.forM_append]
    congr 1
    funext _
    exact bind_pure_unit

variable {good : σ → Prop}

/-- Saving a document leaves what its writer leaves. -/
theorem Document.save_preserves {writer : ResultWriter σ}
    (hwriter : ∀ path content, (persist writer path content).Preserves good) (results : Results)
    (file : Document) : (file.save writer results).Preserves good := by
  cases hrender : file.formatter.render results with
  | error cause =>
    intro state hstate
    rw [save_apply, hrender]
    exact hstate
  | ok content =>
    rw [save_of_render hrender]
    exact hwriter file.path content

/-- Where the documents were saved, a run that submits ends as its submission does. -/
theorem after_perform_of_saved (hbound : scope.artifacts = some place)
    (hsubmit : extras.submit = true) {results : Results} {state checked saved : σ}
    (hengine : check scope work.engine state = (.ok results, checked))
    (hsaved : (documents place.path work.formatter extras).forM (Document.save work.writer results)
      checked = (.ok (), saved)) :
    (perform scope work extras state).2 = (work.submitter.submit scope saved).2 := by
  rw [perform_apply hbound, hengine]
  simp only [forM_stages, Action.bind_of_ok hsaved, hsubmit, if_true, Action.mapError_apply]
  rcases work.submitter.submit scope saved with ⟨cause | _, after⟩
  · rfl
  · cases hrender : work.formatter.render results <;> rfl

/-- A run leaves what all those who work on it leave. -/
theorem perform_preserves (hbound : scope.artifacts = some place)
    (hengine : (check scope work.engine).Preserves good)
    (hwriter : ∀ path content, (persist work.writer path content).Preserves good)
    (hsubmitter : (work.submitter.submit scope).Preserves good) :
    (perform scope work extras).Preserves good := by
  have hstage (results : Results) (stage : Stage) :
      (stage.run scope work results).Preserves good := by
    cases stage with
    | document file => exact Document.save_preserves hwriter results file
    | submission => exact hsubmitter.mapError _
  intro state hstate
  rw [perform_apply hbound]
  rcases hcheck : check scope work.engine state with ⟨cause | results, checked⟩
  · exact hengine.of_run hcheck hstate
  · have hchecked := hengine.of_run hcheck hstate
    have hstages := Action.Preserves.forM (hstage results) (stages place.path work.formatter extras)
    simp only
    rcases hdone : (stages place.path work.formatter extras).forM (Stage.run scope work results)
      checked with ⟨cause | _, after⟩
    · exact hstages.of_run hdone hchecked
    · cases work.formatter.render results <;> exact hstages.of_run hdone hchecked

/-- Where the documents are not all saved, or nothing is to be submitted, a run leaves what its
engine and its writer leave. -/
theorem perform_preserves_of_not_saved (hbound : scope.artifacts = some place) {state : σ}
    (hstate : good state)
    (hengine : (check scope work.engine).Preserves good)
    (hwriter : ∀ path content, (persist work.writer path content).Preserves good)
    (hnot : ∀ results checked saved, check scope work.engine state = (.ok results, checked) →
      (documents place.path work.formatter extras).forM (Document.save work.writer results)
        checked = (.ok (), saved) → extras.submit = false) :
    good (perform scope work extras state).2 := by
  rw [perform_apply hbound]
  rcases hcheck : check scope work.engine state with ⟨cause | results, checked⟩
  · exact hengine.of_run hcheck hstate
  · have hchecked := hengine.of_run hcheck hstate
    have hsaves := Action.Preserves.forM (Document.save_preserves hwriter results)
      (documents place.path work.formatter extras)
    simp only [forM_stages, Action.bind_apply]
    rcases hsaved : (documents place.path work.formatter extras).forM
      (Document.save work.writer results) checked with ⟨cause | _, saved⟩
    · exact hsaves.of_run hsaved hchecked
    · simp only [hnot results checked saved hcheck hsaved, Bool.false_eq_true, if_false,
        Action.pure_apply]
      cases work.formatter.render results <;> exact hsaves.of_run hsaved hchecked

/-- Two ways to take the results of a run that go alike make the run go alike. -/
theorem perform_of_submitters {related : σ → σ → Prop} {submitter : Submitter σ} {state : σ}
    (hbound : scope.artifacts = some place)
    (hengine : (check scope work.engine).Preserves good)
    (hwriter : ∀ path content, (persist work.writer path content).Preserves good)
    (hsame : ∀ state, good state → related state state)
    (hsubmit : Action.Matches related (work.submitter.submit scope) (submitter.submit scope))
    (hstate : good state) :
    (perform scope work extras state).1 = (perform scope { work with submitter } extras state).1 ∧
      related (perform scope work extras state).2
        (perform scope { work with submitter } extras state).2 := by
  rw [perform_apply hbound, perform_apply hbound]
  rcases hcheck : check scope work.engine state with ⟨cause | results, checked⟩
  · exact ⟨rfl, hsame checked (hengine.of_run hcheck hstate)⟩
  · have hsaves := Action.Preserves.forM (Document.save_preserves hwriter results)
      (documents place.path work.formatter extras)
    simp only [forM_stages, Action.bind_apply]
    rcases hsaved : (documents place.path work.formatter extras).forM
      (Document.save work.writer results) checked with ⟨cause | _, saved⟩
    · exact ⟨rfl, hsame saved (hsaves.of_run hsaved (hengine.of_run hcheck hstate))⟩
    · have hlast : Action.Matches related
          (if extras.submit then (work.submitter.submit scope).mapError RunError.submission
            else pure ())
          (if extras.submit then (submitter.submit scope).mapError RunError.submission
            else pure ()) := by
        split
        · exact hsubmit.mapError _
        · exact .pure ()
      obtain ⟨hresult, hafter⟩ := hlast saved saved
        (hsame saved (hsaves.of_run hsaved (hengine.of_run hcheck hstate)))
      simp only
      rcases hfirst : (if extras.submit then (work.submitter.submit scope).mapError
        RunError.submission else pure () : Action σ RunError Unit) saved with ⟨result, after⟩
      rcases hsecond : (if extras.submit then (submitter.submit scope).mapError
        RunError.submission else pure () : Action σ RunError Unit) saved with ⟨same, reached⟩
      rw [hfirst, hsecond] at hresult hafter
      obtain rfl : result = same := hresult
      cases result with
      | error cause => exact ⟨rfl, hafter⟩
      | ok _ => cases work.formatter.render results <;> exact ⟨rfl, hafter⟩

end ContainerCert.Run
