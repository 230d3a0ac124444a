import ContainerCert.Proofs.EngineRuns
import ContainerCert.Proofs.RunCalls

/-!
# Runs that are cancelled

The engine looks whether the run is cancelled before anything else and before each check. It stops
as cancelled exactly where such a look says so, and nothing comes after that look. The run passes
this on, and takes any other failure of the engine for a cancellation where its own look then says
so; either way no document is opened and nothing is submitted. What comes up after the last look of
an engine that gives results changes nothing.
-/

namespace ContainerCert

namespace Check

open Report (Groups Results)

variable {σ : Type}

/-- What the engine does one after the other: it looks whether the run is cancelled, and it
evaluates a check. -/
inductive Step (σ : Type) where
  | look (cancelled : Bool)
  | evaluated (check : ContainerCert.Check σ)

/-- The same surroundings beside a record of steps, into which every look is entered. -/
def Scope.watched (scope : Scope σ) : Scope (σ × List (Step σ)) where
  isCancelled := fun state =>
    let (cancelled, after) := scope.isCancelled state.1
    (cancelled, (after, state.2 ++ [.look cancelled]))
  artifacts := (scope.beside (List (Step σ))).artifacts

/-- The same check beside a record of steps, into which its evaluation is entered. -/
def watched (check : ContainerCert.Check σ) : ContainerCert.Check (σ × List (Step σ)) where
  name := check.name
  description := check.description
  help := check.help
  evaluate target := fun state =>
    let (verdict, after) := check.evaluate target state.1
    (verdict, (after, state.2 ++ [.evaluated check]))

/-- The same clock where something else stands beside the state. -/
def Clock.beside (clock : Clock σ) (κ : Type) : Clock (σ × κ) where
  timestamp := fun state =>
    let (text, after) := clock.timestamp state.1
    (text, (after, state.2))
  milliseconds := fun state =>
    let (time, after) := clock.milliseconds state.1
    (time, (after, state.2))

/-- The same surroundings where every look says that the run goes on. -/
def Scope.uncancelled (scope : Scope σ) : Scope σ where
  isCancelled := fun state => (false, (scope.isCancelled state).2)
  artifacts := scope.artifacts

/-- The steps for a check that is evaluated. -/
def turn (check : ContainerCert.Check σ) : List (Step σ) :=
  [.look false, .evaluated check]

/-- All steps of an engine that goes through its checks. -/
def schedule (checks : List (ContainerCert.Check σ)) : List (Step σ) :=
  .look false :: checks.flatMap turn

/-- The steps are those that were planned up to a look, which says that the run is cancelled, and no
others. -/
def StopsWithin (planned steps : List (Step σ)) : Prop :=
  ∃ before, steps = before ++ [.look true] ∧ before ++ [.look false] <+: planned

/-- How the engine ends after some steps: cancelled at a look; failed before its first check; or
with all its checks evaluated. -/
inductive Ends (checks : List (ContainerCert.Check σ)) :
    Except CheckError Results → List (Step σ) → Prop where
  | cancelled {steps : List (Step σ)} (hsteps : StopsWithin (schedule checks) steps) :
      Ends checks (.error .cancelled) steps
  | failed {cause : CheckError} (hcause : cause ≠ .cancelled) :
      Ends checks (.error cause) [.look false]
  | finished (results : Results) : Ends checks (.ok results) (schedule checks)

variable {clock : Clock σ} {scope : Scope σ} {target : Target}
  {checks : List (ContainerCert.Check σ)} {planned steps : List (Step σ)}

theorem StopsWithin.prepend (h : StopsWithin planned steps) (first : List (Step σ)) :
    StopsWithin (first ++ planned) (first ++ steps) := by
  obtain ⟨before, rfl, hprefix⟩ := h
  refine ⟨first ++ before, by rw [List.append_assoc], ?_⟩
  rw [List.append_assoc]
  exact (List.prefix_append_right_inj first).mpr hprefix

theorem look_true_notMem_turns (checks : List (ContainerCert.Check σ)) :
    Step.look true ∉ checks.flatMap turn := by
  simp [turn]

/-- The engine ends as cancelled exactly where a look says so. -/
theorem Ends.eq_cancelled_iff {result : Except CheckError Results}
    (h : Ends checks result steps) : result = .error .cancelled ↔ .look true ∈ steps := by
  cases h with
  | cancelled hsteps =>
    obtain ⟨before, rfl, -⟩ := hsteps
    simp
  | failed hcause => simpa using hcause
  | finished results => simpa [schedule] using look_true_notMem_turns checks

/-- A look that says that the run is cancelled stops the engine, any other does not, and either is
entered in the record. -/
theorem checkpoint_cases (scope : Scope σ) (state : σ) (record : List (Step σ)) :
    (∃ looked, checkpoint scope state = (.error .cancelled, looked) ∧
      checkpoint scope.watched (state, record) =
        (.error .cancelled, (looked, record ++ [.look true]))) ∨
    ∃ looked, checkpoint scope state = (.ok (), looked) ∧
      checkpoint scope.watched (state, record) = (.ok (), (looked, record ++ [.look false])) := by
  rw [checkpoint_eq, checkpoint_eq]
  rcases hlook : scope.isCancelled state with ⟨_ | _, looked⟩
  · exact .inr ⟨looked, rfl, by simp [Scope.watched, hlook]⟩
  · exact .inl ⟨looked, rfl, by simp [Scope.watched, hlook]⟩

/-- A check is entered once its evaluation is over, and its time is taken as before. -/
theorem evaluateTimed_watched (clock : Clock σ) (target : Target) (check : ContainerCert.Check σ)
    (state : σ) (record : List (Step σ)) :
    evaluateTimed (clock.beside _) target check.watched (state, record) =
      ((evaluateTimed clock target check state).1, ((evaluateTimed clock target check state).2,
        record ++ [.evaluated check])) := rfl

theorem record_watched (groups : Groups) (check : ContainerCert.Check σ) (elapsed : UInt64)
    (verdict : Verdict) : record groups check.watched elapsed verdict =
      record groups check elapsed verdict := by
  cases verdict <;> rfl

/-- Evaluating checks beside a record gives the same and leaves the steps in the record: all turns,
or those before a look that says that the run is cancelled, and that look. -/
theorem evaluateAll_watched (clock : Clock σ) (scope : Scope σ) (target : Target)
    (checks : List (ContainerCert.Check σ)) (groups : Groups) (state : σ)
    (record : List (Step σ)) :
    ∃ result after steps, evaluateAll clock scope target checks groups state = (result, after) ∧
      evaluateAll (clock.beside _) scope.watched target (checks.map watched) groups
        (state, record) = (result, (after, record ++ steps)) ∧
      ((result = .error .cancelled ∧ StopsWithin (checks.flatMap turn) steps) ∨
        (∃ given, result = .ok given) ∧ steps = checks.flatMap turn) := by
  induction checks generalizing groups state record with
  | nil => exact ⟨.ok groups, state, [], rfl, by simp [evaluateAll], .inr ⟨⟨groups, rfl⟩, rfl⟩⟩
  | cons check checks ih =>
    rw [List.map_cons]
    obtain ⟨looked, hplain, hwatched⟩ | ⟨looked, hplain, hwatched⟩ :=
      checkpoint_cases scope state record
    · rw [evaluateAll, evaluateAll, Action.bind_of_error hplain, Action.bind_of_error hwatched]
      exact ⟨_, looked, [.look true], rfl, rfl, .inl ⟨rfl, [], rfl, by simp [turn]⟩⟩
    · rw [evaluateAll_of_look _ _ _ _ hplain, evaluateAll_of_look _ _ _ _ hwatched,
        evaluateTimed_watched]
      -- The other checks go on from what the first one leaves, with its turn in the record.
      obtain ⟨result, after, steps, hrest, hrestWatched, hends⟩ := ih
        (Check.record groups check (evaluateTimed clock target check looked).1.2
          (evaluateTimed clock target check looked).1.1)
        (evaluateTimed clock target check looked).2 (record ++ [.look false] ++ [.evaluated check])
      refine ⟨result, after, turn check ++ steps, hrest, ?_, ?_⟩
      · simpa [record_watched, turn] using hrestWatched
      · obtain ⟨hresult, hsteps⟩ | ⟨hgiven, rfl⟩ := hends
        · exact .inl ⟨hresult, hsteps.prepend (turn check)⟩
        · exact .inr ⟨hgiven, rfl⟩

/-- Writing the image reference beside a record does the same and enters no step. -/
theorem writeReference_watched (scope : Scope σ) (reference : Image.Reference) (state : σ)
    (record : List (Step σ)) :
    writeReference scope.watched reference (state, record) =
      ((writeReference scope reference state).1, ((writeReference scope reference state).2,
        record)) := by
  cases hplace : scope.artifacts with
  | none => simp [writeReference, Scope.watched, Scope.beside, hplace]
  | some place =>
    simp only [writeReference, Scope.watched, Scope.beside, hplace, Option.map_some,
      ArtifactsWriter.within, Action.bind_apply, Action.mapError_apply, Action.within_apply]
    rcases place.write _ _ state with ⟨_ | _, _⟩
    · rfl
    · rfl

/-- A reference that cannot be written is no cancellation. -/
theorem writeReference_ne_cancelled (scope : Scope σ) (reference : Image.Reference) (state : σ) :
    (writeReference scope reference state).1 ≠ .error .cancelled := by
  cases hplace : scope.artifacts with
  | none => simp [writeReference, hplace]
  | some place =>
    rw [writeReference_of_place scope state hplace]
    rcases place.write _ _ state with ⟨_ | _, _⟩
    · simp
    · simp

/-- The engine beside a record of its steps gives the same, and its steps show how it ends. -/
theorem exists_ends (clock : Clock σ) (image : String) (settings : EngineSettings)
    (checks : List (ContainerCert.Check σ)) (scope : Scope σ) (state : σ) :
    ∃ result after steps,
      engine clock image settings checks scope state = (result, after) ∧
      engine (clock.beside _) image settings (checks.map watched) scope.watched (state, []) =
        (result, (after, steps)) ∧
      Ends checks result steps := by
  rw [engine, engine]
  obtain ⟨looked, hplain, hwatched⟩ | ⟨looked, hplain, hwatched⟩ := checkpoint_cases scope state []
  · rw [Action.bind_of_error hplain, Action.bind_of_error hwatched]
    exact ⟨_, looked, [.look true], rfl, rfl, .cancelled ⟨[], rfl, _, rfl⟩⟩
  · rw [Action.bind_of_ok hplain, Action.bind_of_ok hwatched]
    cases Image.Reference.parse image with
    | error cause => exact ⟨_, _, [.look false], rfl, rfl, .failed CheckError.noConfusion⟩
    | ok reference =>
      rw [Action.mapError_ok, Action.bind_of_ok (Action.ofExcept_apply _ _),
        Action.bind_of_ok (Action.ofExcept_apply _ _), List.nil_append]
      have hwrite := writeReference_watched scope reference looked [.look false]
      have hcause := writeReference_ne_cancelled scope reference looked
      rcases hwritten : writeReference scope reference looked with ⟨cause | ⟨⟩, saved⟩
      · rw [hwritten] at hwrite hcause
        rw [Action.bind_of_error hwritten, Action.bind_of_error hwrite]
        exact ⟨_, _, [.look false], rfl, rfl, .failed fun h => hcause (by rw [h])⟩
      · rw [hwritten] at hwrite
        rw [Action.bind_of_ok hwritten, Action.bind_of_ok hwrite]
        obtain ⟨result, after, steps, hchecks, hchecksWatched, hends⟩ :=
          evaluateAll_watched clock scope ⟨reference, settings⟩ checks .none
            (clock.timestamp saved).2 [.look false]
        have hstamp : (liftM (clock.beside (List (Step σ))).timestamp :
            Action _ CheckError String) (saved, [Step.look false]) =
              (.ok (clock.timestamp saved).1, ((clock.timestamp saved).2, [Step.look false])) :=
          Action.lift_apply _ _
        rw [Action.bind_of_ok (Action.lift_apply clock.timestamp saved), Action.bind_of_ok hstamp]
        obtain ⟨rfl, hsteps⟩ | ⟨⟨given, rfl⟩, rfl⟩ := hends
        · rw [Action.bind_of_error hchecks, Action.bind_of_error hchecksWatched]
          exact ⟨_, after, _, rfl, rfl, .cancelled (hsteps.prepend [.look false])⟩
        · rw [Action.bind_of_ok hchecks, Action.bind_of_ok hchecksWatched]
          exact ⟨_, after, _, rfl, rfl, .finished _⟩

/-- A look that does not stop the engine does the same where no look can stop it. -/
theorem checkpoint_uncancelled {state after : σ} (h : checkpoint scope state = (.ok (), after)) :
    checkpoint scope.uncancelled state = (.ok (), after) := by
  rw [checkpoint_eq, Action.ending_inj] at h
  rw [checkpoint_eq, Action.ending_inj]
  exact ⟨rfl, h.2⟩

/-- Where checks all have their turn, they do so too where no look can stop them. -/
theorem evaluateAll_uncancelled {given groups : Groups} {state after : σ}
    (h : evaluateAll clock scope target checks groups state = (.ok given, after)) :
    evaluateAll clock scope.uncancelled target checks groups state = (.ok given, after) := by
  induction checks generalizing groups state with
  | nil => exact h
  | cons check checks ih =>
    obtain ⟨⟨⟩, looked, hlook, hrest⟩ := Action.bind_eq_ok.mp h
    obtain ⟨verdict, evaluated, htimed, hlater⟩ := Action.bind_eq_ok.mp hrest
    refine Action.bind_eq_ok.mpr ⟨(), looked, checkpoint_uncancelled hlook, ?_⟩
    exact Action.bind_eq_ok.mpr ⟨verdict, evaluated, htimed, ih hlater⟩

/-- An engine that gives results gives the same where no look can stop it. -/
theorem engine_uncancelled {image : String} {settings : EngineSettings} {results : Results}
    {state after : σ}
    (h : engine clock image settings checks scope state = (.ok results, after)) :
    engine clock image settings checks scope.uncancelled state = (.ok results, after) := by
  obtain ⟨⟨⟩, looked, hlook, hparse⟩ := Action.bind_eq_ok.mp h
  obtain ⟨reference, parsed, hreference, hwrite⟩ := Action.bind_eq_ok.mp hparse
  obtain ⟨⟨⟩, written, hwritten, hstamp⟩ := Action.bind_eq_ok.mp hwrite
  obtain ⟨testedOn, stamped, hstamped, hchecks⟩ := Action.bind_eq_ok.mp hstamp
  obtain ⟨groups, checked, hchecked, hresults⟩ := Action.bind_eq_ok.mp hchecks
  refine Action.bind_eq_ok.mpr ⟨(), looked, checkpoint_uncancelled hlook, ?_⟩
  refine Action.bind_eq_ok.mpr ⟨reference, parsed, hreference, ?_⟩
  refine Action.bind_eq_ok.mpr ⟨(), written, hwritten, ?_⟩
  refine Action.bind_eq_ok.mpr ⟨testedOn, stamped, hstamped, ?_⟩
  exact Action.bind_eq_ok.mpr ⟨groups, checked, evaluateAll_uncancelled hchecked, hresults⟩

end Check

namespace Run

open Check (Engine Scope CheckError)

variable {σ : Type} {scope : Scope σ} {work : Collaborators σ} {extras : Extras}
  {place : ArtifactsWriter σ}

/-- An error of a run that its engine is the cause of. -/
def RunError.OfEngine : RunError → Prop
  | .cancelled => True
  | .checkExecution _ => True
  | _ => False

theorem check_of_cancelled {engine : Engine σ} {state after : σ}
    (h : engine scope state = (.error .cancelled, after)) :
    check scope engine state = (.error .cancelled, after) := by
  rw [check, h]

/-- Where the engine fails with anything but a cancellation, there is one more look. -/
theorem check_of_error {engine : Engine σ} {state failed : σ} {cause : CheckError}
    (hcause : cause ≠ .cancelled) (h : engine scope state = (.error cause, failed)) :
    check scope engine state =
      (.error (if (scope.isCancelled failed).1 then .cancelled else .checkExecution cause),
        (scope.isCancelled failed).2) := by
  rw [check, h]
  cases cause with
  | cancelled => exact absurd rfl hcause
  | invalidReference | noArtifactsWriter | artifact => rfl

/-- A run is cancelled where the engine was, or where it failed otherwise and the next look says
so. -/
theorem check_eq_cancelled_iff {engine : Engine σ} {state after : σ} :
    check scope engine state = (.error .cancelled, after) ↔
      engine scope state = (.error .cancelled, after) ∨ ∃ cause failed, cause ≠ .cancelled ∧
        engine scope state = (.error cause, failed) ∧ scope.isCancelled failed = (true, after) := by
  constructor
  · intro h
    rcases hengine : engine scope state with ⟨cause | results, failed⟩
    · by_cases hcause : cause = .cancelled
      · subst hcause
        rw [check_of_cancelled hengine, Action.ending_inj] at h
        exact .inl (Action.ending_inj.mpr ⟨rfl, h.2⟩)
      · rw [check_of_error hcause hengine, Action.ending_inj] at h
        cases hlook : (scope.isCancelled failed).1 with
        | true => exact .inr ⟨cause, failed, hcause, rfl, Prod.ext hlook h.2⟩
        | false => simp [hlook] at h
    · rw [check_eq_ok_iff.mpr hengine, Action.ending_inj] at h
      cases h.1
  · rintro (hengine | ⟨cause, failed, hcause, hengine, hlook⟩)
    · exact check_of_cancelled hengine
    · rw [check_of_error hcause hengine, hlook]
      rfl

/-- The failure of the engine is told where the next look does not say that the run is
cancelled. -/
theorem check_eq_checkExecution_iff {engine : Engine σ} {state after : σ} {cause : CheckError} :
    check scope engine state = (.error (.checkExecution cause), after) ↔
      cause ≠ .cancelled ∧ ∃ failed, engine scope state = (.error cause, failed) ∧
        scope.isCancelled failed = (false, after) := by
  constructor
  · intro h
    rcases hengine : engine scope state with ⟨other | results, failed⟩
    · by_cases hcause : other = .cancelled
      · subst hcause
        rw [check_of_cancelled hengine, Action.ending_inj] at h
        cases h.1
      · rw [check_of_error hcause hengine, Action.ending_inj] at h
        cases hlook : (scope.isCancelled failed).1 with
        | true => simp [hlook] at h
        | false =>
          rw [hlook, if_neg Bool.false_ne_true] at h
          obtain ⟨hsame, hafter⟩ := h
          cases hsame
          exact ⟨hcause, failed, rfl, Prod.ext hlook hafter⟩
    · rw [check_eq_ok_iff.mpr hengine, Action.ending_inj] at h
      cases h.1
  · rintro ⟨hcause, failed, hengine, hlook⟩
    rw [check_of_error hcause hengine, hlook]
    rfl

/-- No stage fails with an error of the engine. -/
theorem Stage.not_ofEngine {stage : Stage} {results : Report.Results} {state after : σ}
    {cause : RunError} (h : stage.run scope work results state = (.error cause, after)) :
    ¬ cause.OfEngine := by
  cases stage with
  | document file =>
    rw [run, Document.save_apply] at h
    cases hrender : file.formatter.render results with
    | error told =>
      rw [hrender, Action.ending_inj] at h
      obtain ⟨hcause, -⟩ := h
      cases hcause
      exact id
    | ok content =>
      simp only [hrender, persist, Action.mapError_apply, Action.ending_inj,
        Action.mapError_eq_error] at h
      obtain ⟨⟨told, -, rfl⟩, -⟩ := h
      exact id
  | submission =>
    simp only [run, Action.mapError_apply, Action.ending_inj, Action.mapError_eq_error] at h
    obtain ⟨⟨told, -, rfl⟩, -⟩ := h
    exact id

/-- Where a run ends with an error of the engine, the engine failed, and was all that was
called. -/
theorem Course.of_ofEngine {artifacts : String} {state after : σ} {cause : RunError}
    {calls : List Call} (hcause : cause.OfEngine)
    (h : Course scope work extras artifacts state (.error cause) after calls) :
    check scope work.engine state = (.error cause, after) ∧ calls = [.check] := by
  cases h with
  | engineFails hengine => exact ⟨hengine, rfl⟩
  | stageFails hengine hstages hdone hfails hmade => exact absurd hcause (Stage.not_ofEngine hfails)

/-- A run without a place for artifacts does not come to its engine. -/
theorem perform_of_unbound (h : scope.artifacts = none) (state : σ) :
    perform scope work extras state = (.error (.context "no artifacts writer bound"), state) := by
  simp [perform, h]

/-- A run ends with an error of the engine exactly where it has a place for artifacts and its engine
fails so, and then it calls no one else. -/
theorem perform_eq_ofEngine_iff {cause : RunError} (hcause : cause.OfEngine) {state after : σ} :
    perform scope work extras state = (.error cause, after) ↔
      scope.artifacts ≠ none ∧ check scope work.engine state = (.error cause, after) := by
  cases hplace : scope.artifacts with
  | none =>
    rw [perform_of_unbound hplace, Action.ending_inj]
    constructor
    · rintro ⟨hsame, -⟩
      cases hsame
      exact hcause.elim
    · rintro ⟨hbound, -⟩
      exact absurd rfl hbound
  | some place =>
    constructor
    · intro h
      obtain ⟨outcome, final, calls, hplain, -, hcourse⟩ := exists_course work extras hplace state
      obtain ⟨rfl, rfl⟩ := Action.ending_inj.mp (hplain.symm.trans h)
      exact ⟨Option.some_ne_none _, (hcourse.of_ofEngine hcause).1⟩
    · rintro ⟨-, hengine⟩
      rw [perform_apply hplace, hengine]

theorem calls_of_ofEngine {cause : RunError} (hcause : cause.OfEngine) {state after : σ}
    (h : perform scope work extras state = (.error cause, after)) :
    perform (scope.beside (List Call)) (work.watched scope) extras (state, []) =
      (.error cause, (after, [.check])) := by
  obtain ⟨hbound, -⟩ := (perform_eq_ofEngine_iff hcause).mp h
  obtain ⟨place, hplace⟩ := Option.ne_none_iff_exists'.mp hbound
  obtain ⟨outcome, final, calls, hplain, hwatched, hcourse⟩ :=
    exists_course work extras hplace state
  obtain ⟨rfl, rfl⟩ := Action.ending_inj.mp (hplain.symm.trans h)
  obtain ⟨-, rfl⟩ := hcourse.of_ofEngine hcause
  exact hwatched

/-- Where the engine gives results, and the one who submits does not look whether the run is
cancelled, the run is the same as one that no look can stop. -/
theorem perform_uncancelled {results : Report.Results} {state checked : σ}
    (hengine : work.engine scope state = (.ok results, checked))
    (hengine' : work.engine scope.uncancelled state = (.ok results, checked))
    (hsubmitter : work.submitter.submit scope.uncancelled = work.submitter.submit scope) :
    perform scope.uncancelled work extras state = perform scope work extras state := by
  cases hplace : scope.artifacts with
  | none => rw [perform_of_unbound hplace, perform_of_unbound (by exact hplace)]
  | some place =>
    have hstage : Stage.run scope.uncancelled work results = Stage.run scope work results := by
      funext stage
      cases stage with
      | document file => rfl
      | submission => rw [Stage.run, Stage.run, hsubmitter]
    have hplace' : scope.uncancelled.artifacts = some place := hplace
    rw [perform_apply hplace, perform_apply hplace', check_eq_ok_iff.mpr hengine,
      check_eq_ok_iff.mpr hengine']
    simp only [hstage]

/-- The submissions of this library do not look whether the run is cancelled. -/
theorem submit_uncancelled (submission : Submission) (scope : Scope Machine) :
    submission.submitter.submit scope.uncancelled = submission.submitter.submit scope := by
  cases submission with
  | nothing told => rfl
  | service submission => rfl

theorem scope_isCancelled_eq_iff {context : Context Machine} {machine after : Machine}
    {cancelled : Bool} :
    (Machine.scope context).isCancelled machine = (cancelled, after) ↔
      context.isCancelled machine.signals.advance = cancelled ∧
        after = { machine with signals := machine.signals.advance } := by
  change ((context.isCancelled machine.signals.advance,
    { machine with signals := machine.signals.advance }) : Bool × Machine) = _ ↔ _
  rw [Prod.mk.injEq, eq_comm (b := after)]

/-- In any context, with any checks, and whenever its signal is raised or its deadline comes: the
engine ends as cancelled exactly where a look says so that it came to, before anything else or
before a check, and its steps end with this look. A run is cancelled exactly where its engine is, or
where its engine fails otherwise and the context is cancelled at the look after that; the failure
is told exactly where it is not. In these cases the engine is all that was called, so nothing is
written or submitted. Where the engine gives results, the run is the same, with all that it leaves,
as one that no look can stop, whatever comes up after the last look of the engine. -/
theorem cancellation_of_perform (context : Context Machine) (clock : Check.Clock Machine)
    (image : String) (settings : Check.EngineSettings)
    (checks : List (ContainerCert.Check Machine)) (machine : Machine) :
    (∃ result after steps,
      Check.engine clock image settings checks (Machine.scope context) machine =
        (result, after) ∧
      Check.engine (clock.beside _) image settings (checks.map Check.watched)
        (Machine.scope context).watched (machine, []) = (result, (after, steps)) ∧
      Check.Ends checks result steps ∧ (result = .error .cancelled ↔ .look true ∈ steps)) ∧
    (∀ (work : Collaborators Machine) (extras : Extras) (after : Machine),
      perform (Machine.scope context) work extras machine = (.error .cancelled, after) ↔
        context.artifacts ≠ none ∧
          (work.engine (Machine.scope context) machine = (.error .cancelled, after) ∨
            ∃ cause failed, cause ≠ .cancelled ∧
              work.engine (Machine.scope context) machine = (.error cause, failed) ∧
              context.isCancelled failed.signals.advance = true ∧
              after = { failed with signals := failed.signals.advance })) ∧
    (∀ (work : Collaborators Machine) (extras : Extras) (cause : CheckError) (after : Machine),
      perform (Machine.scope context) work extras machine =
          (.error (.checkExecution cause), after) ↔
        context.artifacts ≠ none ∧ cause ≠ .cancelled ∧ ∃ failed,
          work.engine (Machine.scope context) machine = (.error cause, failed) ∧
          context.isCancelled failed.signals.advance = false ∧
          after = { failed with signals := failed.signals.advance }) ∧
    (∀ (work : Collaborators Machine) (extras : Extras) (cause : RunError) (after : Machine),
      cause.OfEngine →
      perform (Machine.scope context) work extras machine = (.error cause, after) →
      perform ((Machine.scope context).beside (List Call)) (work.watched (Machine.scope context))
        extras (machine, []) = (.error cause, (after, [.check]))) ∧
    ∀ (formatter : Report.Formatter) (writer : ResultWriter Machine) (submission : Submission)
      (extras : Extras) (results : Report.Results) (checked : Machine),
      Check.engine clock image settings checks (Machine.scope context) machine =
        (.ok results, checked) →
      perform (Machine.scope context).uncancelled
          ⟨Check.engine clock image settings checks, formatter, writer, submission.submitter⟩
          extras machine =
        perform (Machine.scope context)
          ⟨Check.engine clock image settings checks, formatter, writer, submission.submitter⟩
          extras machine := by
  refine ⟨?_, fun work extras after => ?_, fun work extras cause after => ?_,
    fun work extras cause after hcause h => calls_of_ofEngine hcause h,
    fun formatter writer submission extras results checked hengine => ?_⟩
  · obtain ⟨result, after, steps, hplain, hwatched, hends⟩ :=
      Check.exists_ends clock image settings checks (Machine.scope context) machine
    exact ⟨result, after, steps, hplain, hwatched, hends, hends.eq_cancelled_iff⟩
  · have hengine : RunError.cancelled.OfEngine := trivial
    rw [perform_eq_ofEngine_iff hengine, check_eq_cancelled_iff]
    simp only [scope_isCancelled_eq_iff]
    rfl
  · have hengine : (RunError.checkExecution cause).OfEngine := trivial
    rw [perform_eq_ofEngine_iff hengine, check_eq_checkExecution_iff]
    simp only [scope_isCancelled_eq_iff]
    rfl
  · exact perform_uncancelled hengine (Check.engine_uncancelled hengine)
      (submit_uncancelled submission _)

end Run
end ContainerCert
