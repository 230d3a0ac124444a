import ContainerCert.Proofs.RunStages

/-!
# What a run asks for

Beside the state of a run a record is kept of every call to those who do its work. The record
changes nothing that the run does. It shows that a run makes the calls of its stages in order and
stops within the first stage that fails; so a submission comes last, at most once, and only when
every document has been opened, written and flushed.
-/

namespace ContainerCert

/-- The same surroundings where something else stands beside the state. -/
def Check.Scope.beside {σ : Type} (scope : Check.Scope σ) (κ : Type) : Check.Scope (σ × κ) where
  isCancelled := fun state =>
    let (cancelled, after) := scope.isCancelled state.1
    (cancelled, (after, state.2))
  artifacts := scope.artifacts.map fun place =>
    place.within Prod.fst fun after state => (after, state.2)

namespace Run

open Check (Engine Scope)
open Files
open Report (Format Formatter Results)

variable {σ ε δ α β κ : Type}

/-- A call to one of those who do the work of a run. -/
inductive Call where
  | check
  | openFile (path : String)
  | write (path : String) (content : ByteArray)
  | flush (path : String)
  | submit

/-- The same action beside a record of calls, into which it is entered. -/
def noted (call : Call) (action : Action σ ε α) : Action (σ × List Call) ε α := fun state =>
  let (result, after) := action state.1
  (result, (after, state.2 ++ [call]))

/-- The same workers in given surroundings, with every call to them entered in a record. -/
def Collaborators.watched (work : Collaborators σ) (scope : Scope σ) :
    Collaborators (σ × List Call) where
  engine _ := noted .check (work.engine scope)
  formatter := work.formatter
  writer := {
    openFile := fun path => noted (.openFile path) (work.writer.openFile path)
    write := fun path content => noted (.write path content) (work.writer.write path content)
    flush := fun path => noted (.flush path) (work.writer.flush path) }
  submitter := {
    submits := work.submitter.submits
    submit := fun _ => noted .submit (work.submitter.submit scope) }

/-- The first action does what the second does and enters calls in the record: all the given ones
where it goes through, and some of the first of them where it fails. -/
def Records (watched : Action (σ × List Call) ε α) (plain : Action σ ε α) (calls : List Call) :
    Prop :=
  ∀ state record, ∃ made, made <+: calls ∧
    watched (state, record) = ((plain state).1, ((plain state).2, record ++ made)) ∧
    ∀ a, (plain state).1 = .ok a → made = calls

namespace Records

theorem noted (call : Call) (action : Action σ ε α) :
    Records (Run.noted call action) action [call] := by
  intro state record
  exact ⟨[call], List.prefix_refl _, rfl, fun _ _ => rfl⟩

/-- An action without calls. -/
theorem of_fst {watched : Action (σ × List Call) ε α} {plain : Action σ ε α}
    (h : ∀ state record, watched (state, record) = ((plain state).1, ((plain state).2, record))) :
    Records watched plain [] := by
  intro state record
  exact ⟨[], List.prefix_refl _, by rw [h, List.append_nil], fun _ _ => rfl⟩

theorem mapError {watched : Action (σ × List Call) ε α} {plain : Action σ ε α}
    {calls : List Call} (h : Records watched plain calls) (tell : ε → δ) :
    Records (watched.mapError tell) (plain.mapError tell) calls := by
  intro state record
  obtain ⟨made, hprefix, hsame, hall⟩ := h state record
  refine ⟨made, hprefix, by simp [hsame], ?_⟩
  intro a ha
  rw [Action.mapError_apply] at ha
  cases hresult : (plain state).1 with
  | error cause => simp [hresult] at ha
  | ok b => exact hall b hresult

/-- Calls follow one another as the actions do. -/
theorem bind {watched : Action (σ × List Call) ε α} {plain : Action σ ε α}
    {watchedNext : α → Action (σ × List Call) ε β} {plainNext : α → Action σ ε β}
    {calls later : List Call} (h : Records watched plain calls)
    (hnext : ∀ a, Records (watchedNext a) (plainNext a) later) :
    Records (watched >>= watchedNext) (plain >>= plainNext) (calls ++ later) := by
  intro state record
  obtain ⟨made, hprefix, hsame, hall⟩ := h state record
  rw [Action.bind_apply, Action.bind_apply, hsame]
  rcases hplain : plain state with ⟨cause | a, between⟩
  · exact ⟨made, hprefix.trans (List.prefix_append _ _), rfl, fun _ h => by simp at h⟩
  · obtain ⟨madeLater, hprefixLater, hsameLater, hallLater⟩ :=
      hnext a between (record ++ made)
    obtain rfl := hall a (by rw [hplain])
    refine ⟨made ++ madeLater, List.prefix_append_right_inj _ |>.mpr hprefixLater, ?_, ?_⟩
    · simp only [hsameLater, List.append_assoc]
    · intro b hb
      rw [hallLater b hb]

/-- Going through a list, the calls of its elements follow one another. -/
theorem forM {watched : κ → Action (σ × List Call) ε Unit} {plain : κ → Action σ ε Unit}
    {calls : κ → List Call} (h : ∀ k, Records (watched k) (plain k) (calls k)) (steps : List κ) :
    Records (steps.forM watched) (steps.forM plain) (steps.flatMap calls) := by
  induction steps with
  | nil => exact of_fst fun _ _ => rfl
  | cons step rest ih => exact (h step).bind fun _ => ih

end Records

/-- The calls that save a document: none where it cannot be made. -/
def Document.calls (results : Results) (file : Document) : List Call :=
  match file.formatter.render results with
  | .error _ => []
  | .ok content => [.openFile file.path, .write file.path content, .flush file.path]

/-- The calls of a stage that goes through. -/
def Stage.calls (results : Results) : Stage → List Call
  | .document file => file.calls results
  | .submission => [.submit]

variable (scope : Scope σ) (work : Collaborators σ)

/-- The engine is called once, whatever becomes of it. -/
theorem check_watched (state : σ) (record : List Call) :
    check (scope.beside (List Call)) (work.watched scope).engine (state, record) =
      ((check scope work.engine state).1,
        ((check scope work.engine state).2, record ++ [.check])) := by
  simp only [check, Collaborators.watched, noted]
  rcases work.engine scope state with ⟨cause | results, after⟩
  · cases cause <;> rfl
  · rfl

theorem persist_records (path : String) (content : ByteArray) :
    Records (persist (work.watched scope).writer path content) (persist work.writer path content)
      [.openFile path, .write path content, .flush path] := by
  refine Records.mapError ?_ _
  exact (Records.noted _ _).bind fun _ => (Records.noted _ _).bind fun _ => Records.noted _ _

theorem save_records (results : Results) (file : Document) :
    Records (file.save (work.watched scope).writer results) (file.save work.writer results)
      (file.calls results) := by
  unfold Document.calls
  cases hrender : file.formatter.render results with
  | error cause =>
    refine Records.of_fst fun state record => ?_
    simp only [Document.save_apply, hrender]
  | ok content =>
    rw [Document.save_of_render hrender, Document.save_of_render hrender]
    exact persist_records scope work file.path content

theorem stage_records (results : Results) (stage : Stage) :
    Records (stage.run (scope.beside (List Call)) (work.watched scope) results)
      (stage.run scope work results) (stage.calls results) := by
  cases stage with
  | document file => exact save_records scope work results file
  | submission => exact (Records.noted _ _).mapError _

/-- How a run goes, and the calls it makes: the engine fails; or the stages before one go through
and that one fails, some of its calls made; or all stages go through. -/
inductive Course (extras : Extras) (artifacts : String) (state : σ) :
    Except RunError Outcome → σ → List Call → Prop where
  | engineFails {cause : RunError} {after : σ}
      (hengine : check scope work.engine state = (.error cause, after)) :
      Course extras artifacts state (.error cause) after [.check]
  | stageFails {results : Results} {checked reached after : σ} {done left : List Stage}
      {stage : Stage} {cause : RunError} {made : List Call}
      (hengine : check scope work.engine state = (.ok results, checked))
      (hstages : stages artifacts work.formatter extras = done ++ stage :: left)
      (hdone : done.forM (Stage.run scope work results) checked = (.ok (), reached))
      (hfails : stage.run scope work results reached = (.error cause, after))
      (hmade : made <+: stage.calls results) :
      Course extras artifacts state (.error cause) after
        (.check :: done.flatMap (Stage.calls results) ++ made)
  | finishes {results : Results} {checked after : σ} {output : ByteArray}
      (hengine : check scope work.engine state = (.ok results, checked))
      (hstages : (stages artifacts work.formatter extras).forM (Stage.run scope work results)
        checked = (.ok (), after))
      (houtput : work.formatter.render results = .ok output) :
      Course extras artifacts state
        (.ok ⟨output, Path.join artifacts ("results." ++ work.formatter.extension), results.passed⟩)
        after (.check :: (stages artifacts work.formatter extras).flatMap (Stage.calls results))

variable {scope} {place : ArtifactsWriter σ}

/-- The record of calls changes nothing, and what is entered in it is the course of the run. -/
theorem exists_course (extras : Extras) (hbound : scope.artifacts = some place) (state : σ) :
    ∃ outcome after calls, perform scope work extras state = (outcome, after) ∧
      perform (scope.beside (List Call)) (work.watched scope) extras (state, []) =
        (outcome, (after, calls)) ∧
      Course scope work extras place.path state outcome after calls := by
  have hbeside : (scope.beside (List Call)).artifacts =
      some (place.within Prod.fst fun after state => (after, state.2)) := by
    simp [Check.Scope.beside, hbound]
  have hpath : (place.within Prod.fst fun after (state : σ × List Call) => (after, state.2)).path =
      place.path := rfl
  have hformatter : (work.watched scope).formatter = work.formatter := rfl
  rw [perform_apply hbound, perform_apply hbeside, check_watched, hpath, hformatter]
  rcases hengine : check scope work.engine state with ⟨cause | results, checked⟩
  · exact ⟨.error cause, checked, [.check], rfl, rfl, .engineFails hengine⟩
  · simp only [List.nil_append]
    have hrecords := Records.forM (stage_records scope work results)
    rcases Action.forM_cases (Stage.run scope work results)
      (stages place.path work.formatter extras) checked with
      ⟨after, hstages⟩ | ⟨done, stage, left, reached, cause, after, hsplit, hdone, hfails, hstages⟩
    · obtain ⟨output, houtput⟩ := exists_render_of_stages hstages
      obtain ⟨made, -, hsame, hall⟩ :=
        hrecords (stages place.path work.formatter extras) checked [.check]
      obtain rfl := hall () (by rw [hstages])
      refine ⟨_, after, _, ?_, ?_, .finishes hengine hstages houtput⟩
      · simp only [hstages, houtput]
      · simp only [hsame, hstages, houtput, List.singleton_append]
    · obtain ⟨madeBefore, -, hsameBefore, hallBefore⟩ := hrecords done checked [.check]
      obtain rfl := hallBefore () (by rw [hdone])
      obtain ⟨made, hmade, hsame, -⟩ := stage_records scope work results stage reached
        ([.check] ++ done.flatMap (Stage.calls results))
      rw [hdone] at hsameBefore
      rw [hfails] at hsame
      refine ⟨_, after, _, ?_, ?_, .stageFails hengine hsplit hdone hfails hmade⟩
      · simp only [hstages]
      · rw [hsplit, Action.forM_append_cons_of_error hsameBefore hsame]
        rfl

variable {work} {extras : Extras}

/-- Only a submission submits. -/
theorem eq_submission_of_mem_calls {results : Results} {stage : Stage}
    (h : Call.submit ∈ stage.calls results) : stage = .submission := by
  cases stage with
  | submission => rfl
  | document file =>
    simp only [Stage.calls, Document.calls] at h
    cases hrender : file.formatter.render results <;> simp [hrender] at h

/-- The calls that save documents are those of their stages. -/
theorem flatMap_map_document (results : Results) (files : List Document) :
    (files.map Stage.document).flatMap (Stage.calls results) =
      files.flatMap (Document.calls results) := by
  rw [List.flatMap_map]
  rfl

theorem submit_notMem_calls (results : Results) (files : List Document) :
    Call.submit ∉ files.flatMap (Document.calls results) := by
  rw [← flatMap_map_document, List.mem_flatMap]
  rintro ⟨stage, hstage, hcall⟩
  obtain ⟨file, -, rfl⟩ := List.mem_map.mp hstage
  exact nomatch eq_submission_of_mem_calls hcall

/-- An element that stands only at the end can be split off in one way. -/
theorem eq_of_append_singleton_eq {l done left : List α} {a : α} (ha : a ∉ l)
    (h : l ++ [a] = done ++ a :: left) : done = l ∧ left = [] := by
  rcases List.eq_nil_or_concat left with rfl | ⟨others, last, rfl⟩
  · exact ⟨(List.append_inj_left' h rfl).symm, rfl⟩
  · rw [List.concat_eq_append, ← List.cons_append, ← List.append_assoc] at h
    have hl : l = done ++ a :: others := List.append_inj_left' h rfl
    simp [hl] at ha

/-- A submission comes after all documents and is the last stage. -/
theorem eq_of_stages_eq {artifacts : String} {formatter : Formatter} {done left : List Stage}
    (h : stages artifacts formatter extras = done ++ .submission :: left) :
    extras.submit = true ∧ done = (documents artifacts formatter extras).map .document ∧
      left = [] := by
  have hnotMem : Stage.submission ∉ (documents artifacts formatter extras).map .document := by
    simp
  cases hasked : extras.submit with
  | false =>
    simp only [stages, hasked, Bool.false_eq_true, if_false, List.append_nil] at h
    simp [h] at hnotMem
  | true =>
    simp only [stages, hasked, if_true] at h
    exact ⟨rfl, eq_of_append_singleton_eq hnotMem h⟩

/-- What was called before a submission, where only documents were saved before it. -/
theorem eq_of_calls_eq {results : Results} {files : List Document} {before later : List Call}
    (h : .check :: files.flatMap (Document.calls results) ++ [.submit] =
      before ++ .submit :: later) :
    before = .check :: files.flatMap (Document.calls results) ∧ later = [] := by
  refine eq_of_append_singleton_eq ?_ h
  rw [List.mem_cons, not_or]
  exact ⟨nofun, submit_notMem_calls results files⟩

namespace Course

variable {artifacts : String} {state after : σ} {outcome : Except RunError Outcome}
  {calls : List Call}

/-- The calls are the first of those that the results of the engine ask for. -/
theorem calls_prefix (h : Course scope work extras artifacts state outcome after calls)
    {results : Results} {checked : σ}
    (hengine : check scope work.engine state = (.ok results, checked)) :
    calls <+: .check ::
      (stages artifacts work.formatter extras).flatMap (Stage.calls results) := by
  cases h with
  | engineFails hfails => simp [hengine] at hfails
  | stageFails hsame hstages hdone hfails hmade =>
    obtain ⟨rfl, rfl⟩ : results = _ ∧ checked = _ := by simpa using hengine.symm.trans hsame
    rw [hstages, List.flatMap_append, List.flatMap_cons, List.cons_append, List.cons_prefix_cons]
    refine ⟨rfl, List.prefix_append_right_inj _ |>.mpr ?_⟩
    exact hmade.trans (List.prefix_append _ _)
  | finishes hsame hstages houtput =>
    obtain ⟨rfl, rfl⟩ : results = _ ∧ checked = _ := by simpa using hengine.symm.trans hsame
    exact List.prefix_refl _

/-- A submission is the last call, and comes when every document has been saved. -/
theorem documents_before_submit
    (h : Course scope work extras artifacts state outcome after calls) {before later : List Call}
    (hsubmit : calls = before ++ .submit :: later) :
    extras.submit = true ∧ later = [] ∧ ∃ results checked saved,
      check scope work.engine state = (.ok results, checked) ∧
      (documents artifacts work.formatter extras).forM (Document.save work.writer results) checked =
        (.ok (), saved) ∧
      before = .check ::
        (documents artifacts work.formatter extras).flatMap (Document.calls results) := by
  have hmem : Call.submit ∈ calls := by simp [hsubmit]
  cases h with
  | engineFails => simp at hmem
  | @stageFails results checked reached _ done left stage _ made hengine hstages hdone hfails
      hmade =>
    simp only [List.cons_append, List.mem_cons, reduceCtorEq, List.mem_append, List.mem_flatMap,
      false_or] at hmem
    rcases hmem with ⟨earlier, hearlier, hcall⟩ | hlast
    · -- A submission is not followed by the stage that fails.
      obtain rfl := eq_submission_of_mem_calls hcall
      obtain ⟨first, second, rfl⟩ := List.append_of_mem hearlier
      rw [List.append_assoc, List.cons_append] at hstages
      simpa using (eq_of_stages_eq hstages).2.2
    · obtain rfl := eq_submission_of_mem_calls (hmade.subset hlast)
      obtain ⟨hasked, rfl, rfl⟩ := eq_of_stages_eq hstages
      have hmade' : made = [.submit] := by
        obtain ⟨rest, hrest⟩ := hmade
        cases made with
        | nil => simp at hlast
        | cons call made =>
          simp only [Stage.calls, List.cons_append, List.cons.injEq, List.append_eq_nil_iff]
            at hrest
          rw [hrest.1, hrest.2.1]
      rw [hmade', flatMap_map_document] at hsubmit
      obtain ⟨hbefore, hlater⟩ := eq_of_calls_eq hsubmit
      rw [forM_document] at hdone
      exact ⟨hasked, hlater, results, checked, reached, hengine, hdone, hbefore⟩
  | @finishes results checked _ output hengine hstages houtput =>
    obtain ⟨stage, hstage, hcall⟩ : ∃ stage ∈ stages artifacts work.formatter extras,
        Call.submit ∈ stage.calls results := by
      simpa only [List.mem_cons, reduceCtorEq, List.mem_flatMap, false_or] using hmem
    obtain rfl := eq_submission_of_mem_calls hcall
    obtain ⟨done, left, hsplit⟩ := List.append_of_mem hstage
    obtain ⟨hasked, rfl, rfl⟩ := eq_of_stages_eq hsplit
    rw [hsplit] at hstages hsubmit
    rw [List.flatMap_append, flatMap_map_document] at hsubmit
    obtain ⟨hbefore, hlater⟩ := eq_of_calls_eq hsubmit
    obtain ⟨saved, hsaved, -⟩ := Action.forM_append_eq_ok.mp hstages
    rw [forM_document] at hsaved
    exact ⟨hasked, hlater, results, checked, saved, hengine, hsaved, hbefore⟩

/-- A run goes through exactly when the engine works and every stage goes through. -/
theorem exists_eq_ok_iff (h : Course scope work extras artifacts state outcome after calls) :
    (∃ made, outcome = .ok made) ↔ ∃ results checked,
      check scope work.engine state = (.ok results, checked) ∧
      (stages artifacts work.formatter extras).forM (Stage.run scope work results) checked =
        (.ok (), after) := by
  cases h with
  | engineFails hengine => simp [hengine]
  | @stageFails results checked reached _ done left stage cause made hengine hstages hdone
      hfails =>
    rw [hstages]
    constructor
    · rintro ⟨made, hmade⟩
      cases hmade
    · rintro ⟨results', checked', hengine', hgoes⟩
      obtain ⟨rfl, rfl⟩ : results = results' ∧ checked = checked' := by
        simpa using hengine.symm.trans hengine'
      rw [Action.forM_append_cons_of_error hdone hfails] at hgoes
      cases hgoes
  | finishes hengine hstages houtput => exact ⟨fun _ => ⟨_, _, hengine, hstages⟩, fun _ => ⟨_, rfl⟩⟩

/-- Where a run goes through, its outcome is what the engine says and what is written first. -/
theorem of_ok {made : Outcome}
    (h : Course scope work extras artifacts state (.ok made) after calls) :
    made.resultsPath = Path.join artifacts ("results." ++ work.formatter.extension) ∧
      [.check, .openFile made.resultsPath, .write made.resultsPath made.output,
        .flush made.resultsPath] <+: calls ∧
      ∃ results checked, work.engine scope state = (.ok results, checked) ∧
        made.passed = results.passed := by
  cases h with
  | @finishes results checked _ output hengine hstages houtput =>
    refine ⟨rfl, ?_, results, checked, check_eq_ok_iff.mp hengine, rfl⟩
    simp [stages, documents, Stage.calls, Document.calls, houtput]

end Course

/-- A run makes the calls of its stages in order and stops within the first that fails, with its
error: the engine works; every document is opened, written and flushed; and the results are
submitted, if at all, after that and once. Keeping a record of the calls changes nothing. -/
theorem calls_of_perform (hbound : scope.artifacts = some place) (state : σ) :
    ∃ outcome after calls,
      perform scope work extras state = (outcome, after) ∧
      perform (scope.beside (List Call)) (work.watched scope) extras (state, []) =
        (outcome, (after, calls)) ∧
      Course scope work extras place.path state outcome after calls ∧
      (∀ results checked, check scope work.engine state = (.ok results, checked) →
        calls <+: .check ::
          (stages place.path work.formatter extras).flatMap (Stage.calls results)) ∧
      ((∃ made, outcome = .ok made) ↔ ∃ results checked,
        check scope work.engine state = (.ok results, checked) ∧
        (stages place.path work.formatter extras).forM (Stage.run scope work results) checked =
          (.ok (), after)) ∧
      (∀ before later, calls = before ++ .submit :: later →
        extras.submit = true ∧ later = [] ∧ ∃ results checked saved,
          check scope work.engine state = (.ok results, checked) ∧
          (documents place.path work.formatter extras).forM
            (Document.save work.writer results) checked = (.ok (), saved) ∧
          before = .check ::
            (documents place.path work.formatter extras).flatMap (Document.calls results)) ∧
      (∀ made, outcome = .ok made →
        made.resultsPath = Path.join place.path ("results." ++ work.formatter.extension) ∧
        [.check, .openFile made.resultsPath, .write made.resultsPath made.output,
          .flush made.resultsPath] <+: calls ∧
        ∃ results checked, work.engine scope state = (.ok results, checked) ∧
          made.passed = results.passed) := by
  obtain ⟨outcome, after, calls, hplain, hwatched, hcourse⟩ :=
    exists_course work extras hbound state
  refine ⟨outcome, after, calls, hplain, hwatched, hcourse, ?_, hcourse.exists_eq_ok_iff, ?_, ?_⟩
  · intro results checked hengine
    exact hcourse.calls_prefix hengine
  · intro before later hsubmit
    exact hcourse.documents_before_submit hsubmit
  · rintro made rfl
    exact hcourse.of_ok

/-- Surroundings in which nothing is cancelled and artifacts are not kept. -/
def idleScope : Scope Unit :=
  ⟨pure false, some ⟨"artifacts", fun name _ => pure name⟩⟩

/-- Workers of whom only the one who submits fails. -/
def refusing : Collaborators Unit where
  engine _ := pure (Results.empty "image" "amd64")
  formatter := Format.table.formatter
  writer := ⟨fun _ => pure (), fun _ _ => pure (), fun _ => pure ()⟩
  submitter := ⟨true, fun _ => throw .noArtifactsWriter⟩

/-- The path of the file that a call opens. -/
def Call.opened? : Call → Option String
  | .openFile path => some path
  | _ => none

/-- Three documents are saved, each under its name, before a submission that fails. -/
theorem calls_of_perform_refused :
    idleScope.artifacts = some ⟨"artifacts", fun name _ => pure name⟩ ∧
      ∃ calls, perform (idleScope.beside (List Call)) (refusing.watched idleScope) ⟨true, true⟩
          ((), []) = (.error (.submission .noArtifactsWriter), ((), calls)) ∧
        Course idleScope refusing ⟨true, true⟩ "artifacts" ()
          (.error (.submission .noArtifactsWriter)) () calls ∧ calls.length = 11 ∧
        calls.filterMap Call.opened? =
          ["artifacts/results.txt", "artifacts/results.json", "artifacts/results-junit.xml"] := by
  refine ⟨rfl, ?_⟩
  obtain ⟨outcome, after, calls, hplain, hwatched, hcourse, -⟩ :=
    @calls_of_perform Unit idleScope refusing ⟨"artifacts", fun name _ => pure name⟩ ⟨true, true⟩
      rfl ()
  obtain ⟨rfl, -⟩ := Action.ending_inj.mp hplain
  obtain ⟨-, hcalls⟩ := Action.ending_inj.mp hwatched
  obtain rfl := congrArg Prod.snd hcalls
  exact ⟨_, rfl, hcourse, rfl, by decide +kernel⟩

end Run
end ContainerCert
