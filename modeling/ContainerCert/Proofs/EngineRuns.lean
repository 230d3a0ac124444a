import ContainerCert.Proofs.MachineFiles
import Mathlib.Logic.Function.Iterate
import Mathlib.Tactic.Set

/-!
# When the engine gives results

A run that is cancelled stays cancelled, so of all looks at the signals the last one decides. The
engine gives results exactly when the run is not cancelled by then, the image reference parses,
and the reference could be written as an artifact. It leaves the network alone in any case.
-/

namespace ContainerCert

namespace Run

variable {σ : Type}

/-- What is raised stays raised, and time does not go back. -/
theorem Context.isCancelled_of_advance {context : Context σ} {signals : Signals}
    (h : context.isCancelled signals.advance = false) : context.isCancelled signals = false := by
  unfold Context.isCancelled Signals.isRaised at *
  rw [Bool.or_eq_false_iff] at h ⊢
  cases hahead : signals.ahead with
  | nil => simpa only [Signals.advance, hahead] using h
  | cons event ahead =>
    simp only [Signals.advance, hahead] at h
    have hbefore : context.signal ∉ signals.raised := fun hmem =>
      absurd (List.mem_append_right _ hmem) (by simpa using h.1)
    refine ⟨by simpa using hbefore, ?_⟩
    cases hdeadline : context.deadline with
    | none => rfl
    | some deadline =>
      simp only [hdeadline, decide_eq_false_iff_not, Nat.not_le] at h ⊢
      omega

/-- A run that is not cancelled after some events was not cancelled before them. -/
theorem Context.isCancelled_of_iterate {context : Context σ} {signals : Signals} (count : Nat)
    (h : context.isCancelled (Signals.advance^[count] signals) = false) :
    context.isCancelled signals = false := by
  induction count generalizing signals with
  | zero => exact h
  | succ count ih => exact isCancelled_of_advance (ih h)

end Run

namespace Check

open Run (Machine Signals Context)
open Files

/-- A look stops a run that it says is cancelled. -/
theorem checkpoint_eq {σ : Type} (scope : Scope σ) (state : σ) :
    checkpoint scope state =
      (if (scope.isCancelled state).1 then .error .cancelled else .ok (),
        (scope.isCancelled state).2) := by
  simp only [checkpoint, Action.bind_apply, Action.lift_apply]
  split <;> rfl

section AnySurroundings

variable {σ : Type} (clock : Clock σ) (scope : Scope σ) (target : Target) (state : σ)

/-- A check is evaluated after a look that does not stop the engine. -/
theorem evaluateAll_of_look {looked : σ} (hlook : checkpoint scope state = (.ok (), looked))
    (check : ContainerCert.Check σ) (checks : List (ContainerCert.Check σ))
    (groups : Report.Groups) :
    evaluateAll clock scope target (check :: checks) groups state =
      evaluateAll clock scope target checks
        (record groups check (evaluateTimed clock target check looked).1.2
          (evaluateTimed clock target check looked).1.1)
        (evaluateTimed clock target check looked).2 := by
  rw [evaluateAll, Action.bind_of_ok hlook, Action.bind_of_ok (Action.lift_apply _ _)]

/-- Where there is a writer, the reference is given to it, and the engine fails if it does. -/
theorem writeReference_of_place {place : ArtifactsWriter σ} (hplace : scope.artifacts = some place)
    (reference : Image.Reference) :
    writeReference scope reference state =
      match place.write referenceArtifact reference.toJson.prettyText.toUTF8 state with
      | (.error cause, after) => (.error (.artifact referenceArtifact cause), after)
      | (.ok _, after) => (.ok (), after) := by
  simp only [writeReference, hplace, Action.bind_apply, Action.mapError_apply]
  rcases place.write _ _ state with ⟨_ | _, _⟩
  · rfl
  · rfl

end AnySurroundings

variable {context : Context Machine}

/-- A look at the signals lets an event happen and stops a run that is cancelled by then. -/
theorem checkpoint_apply (machine : Machine) :
    checkpoint (Machine.scope context) machine =
      (if context.isCancelled machine.signals.advance then .error .cancelled else .ok (),
        { machine with signals := machine.signals.advance }) :=
  checkpoint_eq (Machine.scope context) machine

/-- A check that does nothing to the machine. -/
def LooksOnly (check : ContainerCert.Check Machine) : Prop :=
  ∀ target machine, (check.evaluate target machine).2 = machine

theorem looksOnly_builtin : ∀ check ∈ builtin, LooksOnly check := by
  intro check hmem
  simp only [builtin, List.mem_cons, List.not_mem_nil, or_false] at hmem
  rcases hmem with rfl | rfl <;> exact fun _ _ => rfl

theorem builtin_ne_nil : (builtin : List (ContainerCert.Check Machine)) ≠ [] :=
  List.cons_ne_nil _ _

/-- The time of a check is taken with two looks at the clock. -/
theorem evaluateTimed_snd {check : ContainerCert.Check Machine} (hlooks : LooksOnly check)
    (target : Target) (machine : Machine) :
    (evaluateTimed Machine.clock target check machine).2 =
      { machine with signals := Signals.advance^[2] machine.signals } := by
  let started : Machine := { machine with signals := machine.signals.advance }
  have hevaluated : (check.evaluate target started).2 = started := hlooks target started
  change { (check.evaluate target started).2 with
    signals := (check.evaluate target started).2.signals.advance } = _
  rw [hevaluated]
  rfl

variable (context)

/-- A check is evaluated unless the run is cancelled, and three events later the next one. -/
theorem evaluateAll_cons {check : ContainerCert.Check Machine} (hlooks : LooksOnly check)
    (target : Target) (checks : List (ContainerCert.Check Machine)) (groups : Report.Groups)
    (machine : Machine) :
    ∃ next, evaluateAll Machine.clock (Machine.scope context) target (check :: checks) groups
        machine =
      if context.isCancelled machine.signals.advance then
        (.error .cancelled, { machine with signals := machine.signals.advance })
      else evaluateAll Machine.clock (Machine.scope context) target checks next
        { machine with signals := Signals.advance^[3] machine.signals } := by
  let looked : Machine := { machine with signals := machine.signals.advance }
  refine ⟨record groups check (evaluateTimed Machine.clock target check looked).1.2
    (evaluateTimed Machine.clock target check looked).1.1, ?_⟩
  rw [evaluateAll, Action.bind_apply, checkpoint_apply]
  by_cases hcancelled : context.isCancelled machine.signals.advance = true
  · simp only [hcancelled, if_true]
  · simp only [hcancelled, Action.bind_apply, Action.lift_apply, Bool.false_eq_true, if_false]
    rw [evaluateTimed_snd hlooks]
    rfl

/-- Checks give what they say unless the run is cancelled by the time of the last of them. -/
theorem evaluateAll_eq_ok_iff {checks : List (ContainerCert.Check Machine)}
    (hlooks : ∀ check ∈ checks, LooksOnly check) (target : Target) (groups : Report.Groups)
    (machine : Machine) :
    (∃ given after, evaluateAll Machine.clock (Machine.scope context) target checks groups machine =
        (.ok given, after)) ↔
      checks = [] ∨
        context.isCancelled (Signals.advance^[3 * checks.length - 2] machine.signals) = false := by
  induction checks generalizing groups machine with
  | nil => simp [evaluateAll]
  | cons check checks ih =>
    rw [List.forall_mem_cons] at hlooks
    obtain ⟨next, hnext⟩ := evaluateAll_cons context hlooks.1 target checks groups machine
    rw [hnext]
    have hlast : Signals.advance^[3 * (check :: checks).length - 2] machine.signals =
        Signals.advance^[3 * checks.length] machine.signals.advance := by
      rw [← Function.iterate_succ_apply, List.length_cons]
      rfl
    cases hcancelled : context.isCancelled machine.signals.advance with
    | true =>
      have hstays : context.isCancelled
          (Signals.advance^[3 * checks.length] machine.signals.advance) ≠ false :=
        fun h => by simp [Context.isCancelled_of_iterate _ h] at hcancelled
      rw [hlast]
      simpa using hstays
    | false =>
      simp only [Bool.false_eq_true, if_false, ih hlooks.2, hlast, reduceCtorEq, false_or]
      cases checks with
      | nil => simpa using hcancelled
      | cons other others =>
        rw [← Function.iterate_succ_apply, ← Function.iterate_add_apply]
        simp only [reduceCtorEq, false_or, List.length_cons]
        rfl

/-- The reference is written into the files of the machine. -/
theorem writeReference_apply (directory : String) (reference : Image.Reference)
    (machine : Machine) :
    writeReference (Machine.scope (context.withArtifacts (Machine.directoryWriter directory)))
        reference machine =
      match Artifacts.writeFile directory referenceArtifact
          reference.toJson.prettyText.toUTF8 machine.files with
      | (.error cause, files) =>
        (.error (.artifact referenceArtifact cause), { machine with files })
      | (.ok _, files) => (.ok (), { machine with files }) := by
  simp only [writeReference, Machine.scope, Context.scope, Context.withArtifacts,
    Machine.directoryWriter, ArtifactsWriter.within, Artifacts.directoryWriter, Action.bind_apply,
    Action.mapError_apply, Action.within_apply]
  rcases Artifacts.writeFile directory referenceArtifact _ machine.files with ⟨_ | _, _⟩ <;> rfl

theorem writeReference_eq_ok_iff {directory : String} {reference : Image.Reference}
    {machine after : Machine} :
    writeReference (Machine.scope (context.withArtifacts (Machine.directoryWriter directory)))
        reference machine = (.ok (), after) ↔
      ∃ path files, Artifacts.writeFile directory referenceArtifact
          reference.toJson.prettyText.toUTF8 machine.files = (.ok path, files) ∧
        after = { machine with files } := by
  rw [writeReference_apply]
  rcases Artifacts.writeFile directory referenceArtifact _ machine.files with ⟨cause | path, files⟩
  · simp
  · simp only [Action.ending_inj, Except.ok.injEq, true_and]
    constructor
    · rintro rfl
      exact ⟨path, files, ⟨rfl, rfl⟩, rfl⟩
    · rintro ⟨_, _, ⟨rfl, rfl⟩, rfl⟩
      rfl

/-- The engine with its own checks gives results exactly when the run is not cancelled at its last
look, the image reference parses, and the reference is written as an artifact. -/
theorem engine_eq_ok_iff (image : String) (settings : EngineSettings) (directory : String)
    (machine : Machine) :
    (∃ results after, engine Machine.clock image settings builtin
        (Machine.scope (context.withArtifacts (Machine.directoryWriter directory))) machine =
          (.ok results, after)) ↔
      context.isCancelled (Signals.advance^[5] machine.signals) = false ∧
      ∃ reference path files, Image.Reference.parse image = .ok reference ∧
        Artifacts.writeFile directory referenceArtifact reference.toJson.prettyText.toUTF8
          machine.files = (.ok path, files) := by
  have hchecks (target groups machine) := evaluateAll_eq_ok_iff
    (context.withArtifacts (Machine.directoryWriter directory)) looksOnly_builtin target groups
    machine
  simp only [builtin_ne_nil, false_or] at hchecks
  constructor
  · rintro ⟨results, after, hrun⟩
    rw [engine] at hrun
    obtain ⟨⟨⟩, started, hstart, hrun⟩ := Action.bind_eq_ok.mp hrun
    obtain ⟨reference, parsed, hparse, hrun⟩ := Action.bind_eq_ok.mp hrun
    obtain ⟨⟨⟩, saved, hsave, hrun⟩ := Action.bind_eq_ok.mp hrun
    obtain ⟨testedOn, stamped, hstamp, hrun⟩ := Action.bind_eq_ok.mp hrun
    obtain ⟨groups, checked, hgroups, -⟩ := Action.bind_eq_ok.mp hrun
    obtain ⟨-, rfl⟩ := Action.ending_inj.mp ((checkpoint_apply machine).symm.trans hstart)
    obtain ⟨hparsed, rfl⟩ := Action.ending_inj.mp hparse
    obtain ⟨path, files, hwrite, rfl⟩ := (writeReference_eq_ok_iff context).mp hsave
    obtain ⟨-, rfl⟩ := Action.ending_inj.mp hstamp
    exact ⟨(hchecks _ _ _).mp ⟨groups, checked, hgroups⟩, reference, path, files,
      Action.mapError_eq_ok.mp hparsed, hwrite⟩
  · rintro ⟨hcancelled, reference, path, files, hparse, hwrite⟩
    have hstart : context.isCancelled machine.signals.advance = false :=
      Context.isCancelled_of_iterate 4 hcancelled
    let started : Machine := { machine with signals := machine.signals.advance }
    have hsave : writeReference
        (Machine.scope (context.withArtifacts (Machine.directoryWriter directory))) reference
        started = (.ok (), { started with files }) :=
      (writeReference_eq_ok_iff context).mpr ⟨path, files, hwrite, rfl⟩
    obtain ⟨groups, checked, hgroups⟩ :=
      (hchecks ⟨reference, settings⟩ .none { started with files }).mpr hcancelled
    refine ⟨resultsOf image settings.platform machine.timestamp groups, checked, ?_⟩
    rw [engine]
    refine Action.bind_eq_ok.mpr ⟨(), started, ?_, ?_⟩
    · rw [checkpoint_apply]
      exact Action.ending_inj.mpr ⟨if_neg (Bool.eq_false_iff.mp hstart), rfl⟩
    refine Action.bind_eq_ok.mpr ⟨reference, started, by simp [hparse], ?_⟩
    refine Action.bind_eq_ok.mpr ⟨(), _, hsave, ?_⟩
    refine Action.bind_eq_ok.mpr ⟨machine.timestamp, _, rfl, ?_⟩
    exact Action.bind_eq_ok.mpr ⟨groups, checked, hgroups, rfl⟩

/-- Where nothing stops it and no time passes, the engine gives what its own checks say. -/
theorem engine_unhindered {reference : Image.Reference} {image : String}
    (hparse : Image.Reference.parse image = .ok reference) (settings : EngineSettings)
    (directory path : String) :
    engine ⟨pure "", pure 0⟩ image settings builtin
        ⟨pure false, some ⟨directory, fun _ _ => pure path⟩⟩ () =
      (.ok (resultsOf image settings.platform "" (record
        (record .none (hasTagOrDigest (σ := Unit)) 0 (pinnedVerdict ⟨reference, settings⟩))
        (supportedPlatform (σ := Unit)) 0 (platformVerdict ⟨reference, settings⟩))), ()) := by
  simp [engine, hparse, checkpoint, writeReference]
  rfl

/-- Checks that only look change nothing but the signals. -/
theorem evaluateAll_preserves {good : Machine → Prop}
    (hsignals : ∀ machine signals, good machine → good { machine with signals })
    {checks : List (ContainerCert.Check Machine)} (hlooks : ∀ check ∈ checks, LooksOnly check)
    (target : Target) (groups : Report.Groups) :
    (evaluateAll Machine.clock (Machine.scope context) target checks groups).Preserves good := by
  induction checks generalizing groups with
  | nil => exact .pure groups
  | cons check checks ih =>
    rw [List.forall_mem_cons] at hlooks
    intro machine hmachine
    obtain ⟨next, hnext⟩ := evaluateAll_cons context hlooks.1 target checks groups machine
    rw [hnext]
    split
    · exact hsignals machine _ hmachine
    · exact ih hlooks.2 next _ (hsignals machine _ hmachine)

/-- What the engine does once the reference is written changes nothing but the signals. -/
theorem evaluation_preserves {good : Machine → Prop}
    (hsignals : ∀ machine signals, good machine → good { machine with signals })
    (image : String) (target : Target) :
    (do
      let testedOn ← (Machine.clock.timestamp : Action Machine CheckError String)
      let groups ← evaluateAll Machine.clock (Machine.scope context) target builtin .none
      return resultsOf image target.settings.platform testedOn groups :
      Action Machine CheckError Report.Results).Preserves good :=
  .bind (.lift fun _ h => h) fun _ =>
    .bind (evaluateAll_preserves context hsignals looksOnly_builtin target .none) fun _ => .pure _

variable {network : Pyxis.Network}

/-- The engine with its own checks leaves the network alone. -/
theorem engine_preserves_network (image : String) (settings : EngineSettings)
    (directory : String) :
    (engine Machine.clock image settings builtin
      (Machine.scope (context.withArtifacts (Machine.directoryWriter directory)))).Preserves
        (Machine.HasNetwork network) := by
  refine .bind (fun machine h => by rw [checkpoint_apply]; exact h) fun _ => ?_
  refine .bind (.ofExcept _) fun reference => ?_
  refine .bind (.bind (fun _ h => h) fun _ => .pure _) fun _ => ?_
  exact evaluation_preserves _ (fun _ _ h => h) image ⟨reference, settings⟩

end Check
end ContainerCert
