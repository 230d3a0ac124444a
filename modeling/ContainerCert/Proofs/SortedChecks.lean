import ContainerCert.Proofs.EngineRuns
import ContainerCert.Proofs.ReferenceDocuments

/-!
# How checks are sorted

Every check that the engine goes through becomes one entry of its results, in the list for its
verdict. A record of what the engine has done by those around it, and of what its clock showed,
says that it writes the image reference and no other artifact, and that it comes to its checks only
when this went through. The lists hold at every turn what the checks before it have said, each in
the order of the checks.
-/

namespace ContainerCert.Check

open Report (Entry Groups Results)

variable {σ : Type}

/-- What the engine has done by those around it: it asks whether the run is cancelled, gives away
an artifact to be written, looks at the date or at the milliseconds, and has a check judge the
image. -/
inductive Deed (σ : Type) where
  | looked (cancelled : Bool)
  | wrote (name : String) (content : ByteArray)
  | dated (time : String)
  | timed (milliseconds : Nat)
  | judged (check : ContainerCert.Check σ) (target : Target) (verdict : Verdict)

/-- The same surroundings beside a record of deeds. An artifact is entered whether its writing goes
through or not. -/
def Scope.recorded (scope : Scope σ) : Scope (σ × List (Deed σ)) where
  isCancelled := fun state =>
    let (cancelled, after) := scope.isCancelled state.1
    (cancelled, (after, state.2 ++ [.looked cancelled]))
  artifacts := scope.artifacts.map fun place => {
    path := place.path
    write := fun name content state =>
      let (result, after) := place.write name content state.1
      (result, (after, state.2 ++ [.wrote name content])) }

/-- The same clock beside a record of deeds, into which what it shows is entered. -/
def Clock.recorded (clock : Clock σ) : Clock (σ × List (Deed σ)) where
  timestamp := fun state =>
    let (time, after) := clock.timestamp state.1
    (time, (after, state.2 ++ [.dated time]))
  milliseconds := fun state =>
    let (milliseconds, after) := clock.milliseconds state.1
    (milliseconds, (after, state.2 ++ [.timed milliseconds]))

/-- The same check beside a record of deeds, into which its verdict is entered. -/
def recorded (check : ContainerCert.Check σ) : ContainerCert.Check (σ × List (Deed σ)) where
  name := check.name
  description := check.description
  help := check.help
  evaluate target := fun state =>
    let (verdict, after) := check.evaluate target state.1
    (verdict, (after, state.2 ++ [.judged check target verdict]))

namespace Verdict

def isPass : Verdict → Bool
  | .pass => true
  | _ => false

def isFail : Verdict → Bool
  | .fail _ => true
  | _ => false

def isError : Verdict → Bool
  | .error _ => true
  | _ => false

/-- The reason that a verdict gives; a pass gives none. -/
def reason : Verdict → String
  | .pass => ""
  | .fail reason => reason
  | .error reason => reason

end Verdict

/-- A check that had its turn, what it said, and the milliseconds before and after it. -/
structure Judgement (σ : Type) where
  check : ContainerCert.Check σ
  verdict : Verdict
  start : Nat
  stop : Nat

namespace Judgement

/-- The time that the check took. -/
def elapsed (judgement : Judgement σ) : UInt64 :=
  UInt64.ofNat (judgement.stop - judgement.start)

/-- The entry of the results for a judgement. -/
def entry (judgement : Judgement σ) : Entry where
  name := judgement.check.name
  description := judgement.check.description
  help := judgement.check.help
  elapsed := judgement.elapsed
  reason := judgement.verdict.reason

/-- The deeds of the turn in which a check judged a target. -/
def deeds (target : Target) (judgement : Judgement σ) : List (Deed σ) :=
  [.looked false, .timed judgement.start, .judged judgement.check target judgement.verdict,
    .timed judgement.stop]

end Judgement

/-- The entries of the judgements with such a verdict, in order. -/
def entriesWith (test : Verdict → Bool) (judgements : List (Judgement σ)) : List Entry :=
  (judgements.filter fun judgement => test judgement.verdict).map Judgement.entry

/-- The judgements sorted by their verdicts. -/
def sorted (judgements : List (Judgement σ)) : Groups :=
  ⟨entriesWith Verdict.isPass judgements, entriesWith Verdict.isFail judgements,
    entriesWith Verdict.isError judgements⟩

/-- The artifact that holds an image reference. -/
def artifactOf (reference : Image.Reference) : ByteArray :=
  reference.toJson.prettyText.toUTF8

/-- The image parses, there is a writer of artifacts, and after the first look it writes the
reference. -/
def WritesReference (image : String) (scope : Scope σ) (state : σ) : Prop :=
  ∃ reference place path after, Image.Reference.parse image = .ok reference ∧
    scope.artifacts = some place ∧
    place.write "image-reference.json" (artifactOf reference) (scope.isCancelled state).2 =
      (.ok path, after)

/-- The deeds up to the one artifact. -/
def opening (reference : Image.Reference) : List (Deed σ) :=
  [.looked false, .wrote "image-reference.json" (artifactOf reference)]

/-- How the engine ends, and its deeds: cancelled at its first look; failed for the reference, which
it may have tried to write; cancelled at the look before a check; or done with all its checks. -/
inductive Goes (image : String) (settings : EngineSettings)
    (checks : List (ContainerCert.Check σ)) (scope : Scope σ) (state : σ) :
    Except CheckError Results → List (Deed σ) → Prop where
  | cancelled (hlook : (scope.isCancelled state).1 = true) :
      Goes image settings checks scope state (.error .cancelled) [.looked true]
  | refused {cause : CheckError} (hwrites : ¬ WritesReference image scope state) :
      Goes image settings checks scope state (.error cause) [.looked false]
  | unwritten {reference : Image.Reference} {cause : CheckError}
      (hparse : Image.Reference.parse image = .ok reference)
      (hwrites : ¬ WritesReference image scope state) :
      Goes image settings checks scope state (.error cause) (opening reference)
  | stopped {reference : Image.Reference} {time : String} {judgements : List (Judgement σ)}
      (hparse : Image.Reference.parse image = .ok reference)
      (hwrites : WritesReference image scope state)
      (hchecks : judgements.map Judgement.check <+: checks) {before : σ}
      (hlook : (scope.isCancelled before).1 = true) :
      Goes image settings checks scope state (.error .cancelled)
        (opening reference ++ .dated time ::
          judgements.flatMap (Judgement.deeds ⟨reference, settings⟩) ++ [.looked true])
  | finished {reference : Image.Reference} {time : String} {judgements : List (Judgement σ)}
      (hparse : Image.Reference.parse image = .ok reference)
      (hwrites : WritesReference image scope state)
      (hchecks : judgements.map Judgement.check = checks) :
      Goes image settings checks scope state
        (.ok (resultsOf image settings.platform time (sorted judgements)))
        (opening reference ++ .dated time ::
          judgements.flatMap (Judgement.deeds ⟨reference, settings⟩))

section Sorting

variable (test : Verdict → Bool) (judgements later : List (Judgement σ))

theorem entriesWith_append : entriesWith test (judgements ++ later) =
    entriesWith test judgements ++ entriesWith test later := by
  rw [entriesWith, List.filter_append, List.map_append]
  rfl

/-- The lists stay those of the judgements when one more check has its turn. -/
theorem record_sorted (judgement : Judgement σ) :
    record (sorted judgements) judgement.check judgement.elapsed judgement.verdict =
      sorted (judgements ++ [judgement]) := by
  rcases judgement with ⟨check, verdict, start, stop⟩
  cases verdict <;> simp [sorted, record, entryOf, entriesWith, Judgement.entry, Verdict.isPass,
    Verdict.isFail, Verdict.isError, Verdict.reason]

/-- Every judgement stands in one of the lists, and in no more than one. -/
theorem perm_sorted : ((sorted judgements).passed ++ (sorted judgements).failed ++
    (sorted judgements).errors).Perm (judgements.map Judgement.entry) := by
  induction judgements with
  | nil => exact .refl _
  | cons judgement judgements ih =>
    have hcons (test : Verdict → Bool) : entriesWith test (judgement :: judgements) =
        (if test judgement.verdict then [judgement.entry] else []) ++
          entriesWith test judgements := by
      rw [← List.singleton_append, entriesWith_append]
      cases htest : test judgement.verdict <;> simp [entriesWith, htest]
    refine .trans ?_ (ih.cons judgement.entry)
    simp only [sorted, hcons]
    cases judgement.verdict with
    | pass => exact .refl _
    | fail reason => exact List.perm_middle.append_right _
    | error reason => exact List.perm_middle

theorem total_sorted : (sorted judgements).total = judgements.length := by
  have hlength := (perm_sorted judgements).length_eq
  rwa [List.length_append, List.length_append, List.length_map] at hlength

end Sorting

section Recording

variable (clock : Clock σ) (scope : Scope σ) (target : Target) (state : σ)
  (deeds : List (Deed σ))

/-- A look that says that the run is cancelled stops the engine, any other does not, and either is
entered. -/
theorem checkpoint_recorded :
    (∃ looked, scope.isCancelled state = (true, looked) ∧
      checkpoint scope state = (.error .cancelled, looked) ∧
      checkpoint scope.recorded (state, deeds) =
        (.error .cancelled, (looked, deeds ++ [.looked true]))) ∨
    ∃ looked, scope.isCancelled state = (false, looked) ∧
      checkpoint scope state = (.ok (), looked) ∧
      checkpoint scope.recorded (state, deeds) = (.ok (), (looked, deeds ++ [.looked false])) := by
  rw [checkpoint_eq, checkpoint_eq]
  rcases hlook : scope.isCancelled state with ⟨_ | _, looked⟩
  · exact .inr ⟨looked, rfl, rfl, by simp [Scope.recorded, hlook]⟩
  · exact .inl ⟨looked, rfl, rfl, by simp [Scope.recorded, hlook]⟩

theorem record_recorded (groups : Groups) (check : ContainerCert.Check σ) (elapsed : UInt64)
    (verdict : Verdict) : record groups check.recorded elapsed verdict =
      record groups check elapsed verdict := by
  cases verdict <;> rfl

/-- The turn of a check gives a judgement and enters it. -/
theorem exists_judgement (check : ContainerCert.Check σ) :
    ∃ (judgement : Judgement σ) (after : σ), judgement.check = check ∧
      evaluateTimed clock target check state =
        ((judgement.verdict, judgement.elapsed), after) ∧
      evaluateTimed clock.recorded target check.recorded (state, deeds ++ [.looked false]) =
        ((judgement.verdict, judgement.elapsed), (after, deeds ++ judgement.deeds target)) := by
  let start := clock.milliseconds state
  let verdict := check.evaluate target start.2
  let stop := clock.milliseconds verdict.2
  refine ⟨⟨check, verdict.1, start.1, stop.1⟩, stop.2, rfl, rfl, ?_⟩
  have hdeeds : deeds ++ (Judgement.mk check verdict.1 start.1 stop.1).deeds target =
      deeds ++ [.looked false] ++ [.timed start.1] ++ [.judged check target verdict.1] ++
        [.timed stop.1] := by
    simp [Judgement.deeds]
  rw [hdeeds]
  rfl

/-- Where the lists hold what the checks before have said, they hold at the end what all have said,
unless a look in between stops the engine. -/
theorem evaluateAll_recorded (checks : List (ContainerCert.Check σ)) (done : List (Judgement σ)) :
    ∃ judgements after,
      (judgements.map Judgement.check = checks ∧
        evaluateAll clock scope target checks (sorted done) state =
          (.ok (sorted (done ++ judgements)), after) ∧
        evaluateAll (clock.recorded) scope.recorded target (checks.map recorded) (sorted done)
          (state, deeds) = (.ok (sorted (done ++ judgements)),
            (after, deeds ++ judgements.flatMap (Judgement.deeds target)))) ∨
      (judgements.map Judgement.check <+: checks ∧
        (∃ before, (scope.isCancelled before).1 = true) ∧
        evaluateAll clock scope target checks (sorted done) state = (.error .cancelled, after) ∧
        evaluateAll (clock.recorded) scope.recorded target (checks.map recorded) (sorted done)
          (state, deeds) = (.error .cancelled,
            (after, deeds ++ judgements.flatMap (Judgement.deeds target) ++ [.looked true]))) := by
  induction checks generalizing done state deeds with
  | nil => exact ⟨[], state, .inl ⟨rfl, by simp [evaluateAll], by simp [evaluateAll]⟩⟩
  | cons check checks ih =>
    rw [List.map_cons]
    obtain ⟨looked, hlook, hplain, hrecorded⟩ | ⟨looked, -, hplain, hrecorded⟩ :=
      checkpoint_recorded scope state deeds
    · refine ⟨[], looked, .inr ⟨List.nil_prefix, ⟨state, by rw [hlook]⟩,
        Action.bind_of_error hplain _, ?_⟩⟩
      rw [List.flatMap_nil, List.append_nil]
      exact Action.bind_of_error hrecorded _
    · obtain ⟨judgement, judged, rfl, htimed, htimedRecorded⟩ :=
        exists_judgement clock target looked deeds check
      obtain ⟨judgements, after, hrest⟩ :=
        ih judged (deeds ++ judgement.deeds target) (done ++ [judgement])
      rw [evaluateAll_of_look _ _ _ _ hplain, evaluateAll_of_look _ _ _ _ hrecorded, htimed,
        htimedRecorded, record_recorded]
      simp only [record_sorted]
      refine ⟨judgement :: judgements, after, ?_⟩
      rw [List.map_cons, List.flatMap_cons]
      simp only [List.append_assoc, List.singleton_append] at hrest ⊢
      obtain ⟨hchecks, hends⟩ | ⟨hchecks, hends⟩ := hrest
      · exact .inl ⟨congrArg _ hchecks, hends⟩
      · exact .inr ⟨(List.prefix_cons_inj _).mpr hchecks, hends⟩

/-- The attempt to write the reference is entered, if there is a writer. -/
theorem writeReference_recorded (reference : Image.Reference) :
    writeReference scope.recorded reference (state, deeds) =
      ((writeReference scope reference state).1, ((writeReference scope reference state).2,
        deeds ++ if scope.artifacts.isSome then
          [.wrote "image-reference.json" (artifactOf reference)] else [])) := by
  cases hplace : scope.artifacts with
  | none => simp [writeReference, Scope.recorded, hplace]
  | some place =>
    simp only [writeReference, Scope.recorded, hplace, Option.map_some, Action.bind_apply,
      Action.mapError_apply, Option.isSome_some, if_true, artifactOf]
    rcases place.write _ _ state with ⟨_ | _, _⟩
    · rfl
    · rfl

/-- The reference is written where the engine goes on from writing it. -/
theorem writesReference_iff {image : String} {reference : Image.Reference}
    (hparse : Image.Reference.parse image = .ok reference) :
    WritesReference image scope state ↔
      ∃ after, writeReference scope reference (scope.isCancelled state).2 = (.ok (), after) := by
  cases hplace : scope.artifacts with
  | none => simp [WritesReference, writeReference, hplace]
  | some place =>
    rw [writeReference_of_place _ _ hplace, ← artifactOf, referenceArtifact]
    rcases hwritten : place.write "image-reference.json" (artifactOf reference)
      (scope.isCancelled state).2 with ⟨cause | path, after⟩
    · simp [WritesReference, hparse, hplace, hwritten]
    · simp [WritesReference, hparse, hplace, hwritten]

/-- What the engine does once the reference is written. -/
def judgeAll (image : String) (settings : EngineSettings) (checks : List (ContainerCert.Check σ))
    (reference : Image.Reference) : Action σ CheckError Results := do
  let testedOn ← (clock.timestamp : Action σ CheckError String)
  let groups ← evaluateAll clock scope ⟨reference, settings⟩ checks .none
  return resultsOf image settings.platform testedOn groups

/-- Once the reference is written, the engine goes through its checks or is cancelled on the way. -/
theorem exists_goes_judgeAll (saved : σ) (checks : List (ContainerCert.Check σ))
    (settings : EngineSettings) {image : String} {reference : Image.Reference}
    (hparse : Image.Reference.parse image = .ok reference)
    (hwrites : WritesReference image scope state) :
    ∃ result after deeds,
      judgeAll clock scope image settings checks reference saved = (result, after) ∧
      judgeAll (clock.recorded) scope.recorded image settings (checks.map recorded) reference
        (saved, opening reference) = (result, (after, deeds)) ∧
      Goes image settings checks scope state result deeds := by
  have hstamp : (liftM clock.recorded.timestamp : Action _ CheckError String)
      (saved, opening reference) = (.ok (clock.timestamp saved).1,
        ((clock.timestamp saved).2, opening reference ++ [.dated (clock.timestamp saved).1])) :=
    Action.lift_apply _ _
  rw [judgeAll, judgeAll, Action.bind_of_ok (Action.lift_apply clock.timestamp saved),
    Action.bind_of_ok hstamp]
  -- The lists are those of no judgement before the first check.
  obtain ⟨judgements, after, hends⟩ := evaluateAll_recorded clock scope ⟨reference, settings⟩
    (clock.timestamp saved).2 (opening reference ++ [.dated (clock.timestamp saved).1]) checks []
  have hnone : sorted ([] : List (Judgement σ)) = .none := rfl
  rw [hnone, List.nil_append, List.append_assoc, List.singleton_append] at hends
  obtain ⟨hchecks, hplain, hrecorded⟩ | ⟨hchecks, ⟨before, hbefore⟩, hplain, hrecorded⟩ := hends
  · rw [Action.bind_of_ok hplain, Action.bind_of_ok hrecorded]
    exact ⟨_, after, _, rfl, rfl, .finished hparse hwrites hchecks⟩
  · rw [Action.bind_of_error hplain, Action.bind_of_error hrecorded]
    exact ⟨_, after, _, rfl, rfl, .stopped hparse hwrites hchecks hbefore⟩

/-- The engine beside a record of its deeds gives the same, and goes one of the ways it can go. -/
theorem exists_goes (image : String) (settings : EngineSettings)
    (checks : List (ContainerCert.Check σ)) :
    ∃ result after deeds,
      engine clock image settings checks scope state = (result, after) ∧
      engine (clock.recorded) image settings (checks.map recorded) scope.recorded (state, []) =
        (result, (after, deeds)) ∧
      Goes image settings checks scope state result deeds := by
  rw [engine, engine]
  obtain ⟨looked, hlook, hplain, hrecorded⟩ | ⟨looked, hlook, hplain, hrecorded⟩ :=
    checkpoint_recorded scope state []
  · rw [Action.bind_of_error hplain, Action.bind_of_error hrecorded]
    exact ⟨_, looked, _, rfl, rfl, .cancelled (by rw [hlook])⟩
  · rw [Action.bind_of_ok hplain, Action.bind_of_ok hrecorded, List.nil_append]
    cases hparse : Image.Reference.parse image with
    | error cause =>
      have hwrites : ¬ WritesReference image scope state := by simp [WritesReference, hparse]
      exact ⟨_, _, [.looked false], rfl, rfl, .refused hwrites⟩
    | ok reference =>
      rw [Action.mapError_ok, Action.bind_of_ok (Action.ofExcept_apply _ _),
        Action.bind_of_ok (Action.ofExcept_apply _ _)]
      have hwrites := writesReference_iff scope state hparse
      have hrecord := writeReference_recorded scope looked [.looked false] reference
      rw [hlook] at hwrites
      rcases hwritten : writeReference scope reference looked with ⟨cause | ⟨⟩, saved⟩
      · have hfails : ¬ WritesReference image scope state := by simp [hwrites, hwritten]
        rw [hwritten] at hrecord
        rw [Action.bind_of_error hwritten, Action.bind_of_error hrecord]
        cases scope.artifacts with
        | none => exact ⟨_, _, _, rfl, rfl, .refused hfails⟩
        | some place => exact ⟨_, _, _, rfl, rfl, .unwritten hparse hfails⟩
      · have hwrote : WritesReference image scope state := hwrites.mpr ⟨saved, hwritten⟩
        obtain ⟨-, place, -, -, -, hplace, -⟩ := id hwrote
        have hsaved : writeReference scope.recorded reference (looked, [.looked false]) =
            (.ok (), (saved, opening reference)) := by
          rw [hrecord, hwritten, hplace]
          rfl
        rw [Action.bind_of_ok hwritten, Action.bind_of_ok hsaved]
        exact exists_goes_judgeAll clock scope state saved checks settings hparse hwrote

end Recording

/-- Where the reference is the only artifact, it is so at one place. -/
theorem eq_of_opening {reference : Image.Reference} {later before rest : List (Deed σ)}
    {name : String} {content : ByteArray} (hlater : .wrote name content ∉ later)
    (h : opening reference ++ later = before ++ .wrote name content :: rest) :
    before = [.looked false] ∧ name = "image-reference.json" ∧ content = artifactOf reference := by
  rcases before with _ | ⟨first, _ | ⟨second, before⟩⟩
  · simp [opening] at h
  · simp only [opening, List.cons_append, List.nil_append, List.cons.injEq,
      Deed.wrote.injEq] at h
    obtain ⟨rfl, ⟨hname, hcontent⟩, -⟩ := h
    exact ⟨rfl, hname.symm, hcontent.symm⟩
  · simp only [opening, List.cons_append, List.nil_append, List.cons.injEq] at h
    exact absurd (by simp [h.2.2]) hlater

namespace Goes

variable {image : String} {settings : EngineSettings} {checks : List (ContainerCert.Check σ)}
  {scope : Scope σ} {state : σ} {result : Except CheckError Results} {deeds : List (Deed σ)}

/-- The engine gives results exactly where it writes the reference and no look stops it. -/
theorem exists_ok_iff (h : Goes image settings checks scope state result deeds) :
    (∃ results, result = .ok results) ↔
      WritesReference image scope state ∧ .looked true ∉ deeds := by
  cases h with
  | cancelled hlook => simp
  | refused hwrites => simp [hwrites]
  | unwritten hparse hwrites => simp [hwrites]
  | stopped hparse hwrites hchecks hlook => simp
  | finished hparse hwrites hchecks => simp [hwrites, opening, Judgement.deeds]

/-- A look that stops the engine is one at which the run is cancelled. -/
theorem exists_cancelled (h : Goes image settings checks scope state result deeds)
    (hlooked : .looked true ∈ deeds) : ∃ before, (scope.isCancelled before).1 = true := by
  cases h with
  | cancelled hlook => exact ⟨state, hlook⟩
  | refused hwrites => simp at hlooked
  | unwritten hparse hwrites => simp [opening] at hlooked
  | stopped hparse hwrites hchecks hlook => exact ⟨_, hlook⟩
  | finished hparse hwrites hchecks => simp [opening, Judgement.deeds] at hlooked

/-- A check is judged only after the reference is written. -/
theorem opening_prefix (h : Goes image settings checks scope state result deeds)
    {check : ContainerCert.Check σ} {target : Target} {verdict : Verdict}
    (hjudged : .judged check target verdict ∈ deeds) :
    WritesReference image scope state ∧
      ∃ reference, Image.Reference.parse image = .ok reference ∧ opening reference <+: deeds := by
  cases h with
  | cancelled hlook => simp at hjudged
  | refused hwrites => simp at hjudged
  | unwritten hparse hwrites => simp [opening] at hjudged
  | stopped hparse hwrites hchecks hlook =>
    exact ⟨hwrites, _, hparse, by rw [List.append_assoc]; exact List.prefix_append _ _⟩
  | finished hparse hwrites hchecks => exact ⟨hwrites, _, hparse, List.prefix_append _ _⟩

/-- Only the reference is written, once, after the first look. -/
theorem eq_of_wrote (h : Goes image settings checks scope state result deeds)
    {before rest : List (Deed σ)} {name : String} {content : ByteArray}
    (hdeeds : deeds = before ++ .wrote name content :: rest) :
    before = [.looked false] ∧ name = "image-reference.json" ∧
      ∃ reference, Image.Reference.parse image = .ok reference ∧
        content = artifactOf reference := by
  cases h with
  | cancelled | refused =>
    -- There is no place for it beside the one look.
    rcases before with _ | ⟨first, before⟩
    · simp at hdeeds
    · simp at hdeeds
  | unwritten hparse hwrites =>
    rw [← List.append_nil (opening _)] at hdeeds
    obtain ⟨hbefore, hname, hcontent⟩ := eq_of_opening (by simp) hdeeds
    exact ⟨hbefore, hname, _, hparse, hcontent⟩
  | stopped hparse hwrites hchecks hlook =>
    rw [List.append_assoc] at hdeeds
    obtain ⟨hbefore, hname, hcontent⟩ := eq_of_opening (by simp [Judgement.deeds]) hdeeds
    exact ⟨hbefore, hname, _, hparse, hcontent⟩
  | finished hparse hwrites hchecks =>
    obtain ⟨hbefore, hname, hcontent⟩ := eq_of_opening (by simp [Judgement.deeds]) hdeeds
    exact ⟨hbefore, hname, _, hparse, hcontent⟩

end Goes

/-- For any image, checks, clock and surroundings: the engine gives results exactly where the image
parses, there is a writer that writes the reference, and no look stops it, which none does unless
the run is cancelled. Every check has then had its turn, in order, and stands in one list and no
more than one: the lists hold the checks that passed, failed and could not be evaluated, each in the
order of the checks, with its texts, its time and the reason that was given, which is empty for
those that passed. Their total is the number of checks, and the results have passed exactly where
none failed and none could not be evaluated. However the engine ends, it writes no artifact but the
reference, once and before any check, and no check is judged unless the reference was written. -/
theorem checks_sorted_by_verdict (clock : Clock σ) (image : String) (settings : EngineSettings)
    (checks : List (ContainerCert.Check σ)) (scope : Scope σ) (state : σ) :
    ∃ result after deeds,
      engine clock image settings checks scope state = (result, after) ∧
      engine clock.recorded image settings (checks.map recorded) scope.recorded (state, []) =
        (result, (after, deeds)) ∧
      ((∃ results, result = .ok results) ↔
        WritesReference image scope state ∧ .looked true ∉ deeds) ∧
      (.looked true ∈ deeds → ∃ before, (scope.isCancelled before).1 = true) ∧
      (∀ results, result = .ok results → ∃ reference time judgements,
        Image.Reference.parse image = .ok reference ∧
        judgements.map Judgement.check = checks ∧
        deeds = opening reference ++ .dated time ::
          judgements.flatMap (Judgement.deeds ⟨reference, settings⟩) ∧
        results.schema = "preflight.results.v1" ∧ results.image = image ∧
        results.platform = settings.platform ∧ results.testedOn = time ∧
        results.groups.passed = entriesWith Verdict.isPass judgements ∧
        results.groups.failed = entriesWith Verdict.isFail judgements ∧
        results.groups.errors = entriesWith Verdict.isError judgements ∧
        (results.groups.passed ++ results.groups.failed ++ results.groups.errors).Perm
          (judgements.map Judgement.entry) ∧
        results.groups.total = checks.length ∧
        (results.passed = true ↔ results.groups.failed = [] ∧ results.groups.errors = [])) ∧
      (∀ before name content rest, deeds = before ++ .wrote name content :: rest →
        before = [.looked false] ∧ name = "image-reference.json" ∧ ∃ reference,
          Image.Reference.parse image = .ok reference ∧ content = artifactOf reference ∧
          Image.Reference.ofFile? content = some reference) ∧
      ∀ check target verdict, .judged check target verdict ∈ deeds →
        WritesReference image scope state ∧ ∃ reference,
          Image.Reference.parse image = .ok reference ∧ opening reference <+: deeds := by
  obtain ⟨result, after, deeds, hplain, hrecorded, hgoes⟩ :=
    exists_goes clock scope state image settings checks
  refine ⟨result, after, deeds, hplain, hrecorded, hgoes.exists_ok_iff, hgoes.exists_cancelled,
    fun results hresults => ?_, fun before name content rest hdeeds => ?_,
    fun check target verdict => hgoes.opening_prefix⟩
  · cases hgoes with
    | cancelled | refused | unwritten | stopped => cases hresults
    | @finished reference time judgements hparse hwrites hchecks =>
      cases hresults
      have htotal : (sorted judgements).total = checks.length := by
        rw [total_sorted, ← hchecks, List.length_map]
      refine ⟨reference, time, judgements, hparse, hchecks, rfl, rfl, rfl, rfl, rfl, rfl, rfl, rfl,
        perm_sorted judgements, htotal, ?_⟩
      simp [resultsOf]
  · obtain ⟨hbefore, hname, reference, hparse, rfl⟩ := hgoes.eq_of_wrote hdeeds
    exact ⟨hbefore, hname, reference, hparse, rfl, Image.Reference.ofFile?_prettyText reference⟩

/-- A clock that goes on by two milliseconds whenever it is looked at. -/
def tickingClock : Clock Nat :=
  ⟨pure "now", fun time => (time, time + 2)⟩

/-- Surroundings in which nothing is cancelled and artifacts are written. -/
def openScope : Scope Nat :=
  ⟨pure false, some ⟨"artifacts", fun name _ => pure ("artifacts/" ++ name)⟩⟩

/-- Checks of every verdict, the one that fails in front. -/
def checksOfEachVerdict : List (ContainerCert.Check Nat) :=
  [.ofVerdict "Labels" "Has labels" "Add labels." fun _ => .fail "no label",
    .ofVerdict "Digest" "Is pinned" "" fun _ => .pass,
    .ofVerdict "Layers" "Has layers" "" fun _ => .error "no manifest"]

/-- A check that fails, one that passes and one that cannot be evaluated stand in the lists for
their verdicts with the reasons they gave. -/
theorem checks_sorted_by_verdict_of_failing_check :
    ∃ results after judgements,
      engine tickingClock "quay.io/example/app:1" .initial checksOfEachVerdict openScope 0 =
        (.ok results, after) ∧
      judgements.map Judgement.check = checksOfEachVerdict ∧
      entriesWith Verdict.isPass judgements = [⟨"Digest", "Is pinned", "", 2, ""⟩] ∧
      entriesWith Verdict.isFail judgements =
        [⟨"Labels", "Has labels", "Add labels.", 2, "no label"⟩] ∧
      entriesWith Verdict.isError judgements = [⟨"Layers", "Has layers", "", 2, "no manifest"⟩] ∧
      results.passed = false := by
  have hgiven : (engine tickingClock "quay.io/example/app:1" .initial checksOfEachVerdict openScope
      0).1.toOption.map (fun results => (results.groups, results.passed)) =
        some (⟨[⟨"Digest", "Is pinned", "", 2, ""⟩],
          [⟨"Labels", "Has labels", "Add labels.", 2, "no label"⟩],
          [⟨"Layers", "Has layers", "", 2, "no manifest"⟩]⟩, false) := by
    decide +kernel
  obtain ⟨result, after, deeds, hplain, -, -, -, hresults, -⟩ := checks_sorted_by_verdict
    tickingClock "quay.io/example/app:1" .initial checksOfEachVerdict openScope 0
  rw [hplain] at hgiven
  cases result with
  | error cause => simp [Except.toOption] at hgiven
  | ok results =>
    obtain ⟨-, -, judgements, -, hchecks, -, -, -, -, -, hpassed, hfailed, herrors, -⟩ :=
      hresults results rfl
    obtain ⟨hgroups, hverdict⟩ : results.groups = _ ∧ results.passed = false := by
      simpa [Except.toOption] using hgiven
    rw [hgroups] at hpassed hfailed herrors
    exact ⟨results, after, judgements, hplain, hchecks, hpassed.symm, hfailed.symm, herrors.symm,
      hverdict⟩

end ContainerCert.Check
