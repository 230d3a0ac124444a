import ContainerCert.Proofs.EngineRuns
import ContainerCert.Proofs.SumsOfTimes

/-!
# Times that were measured

The checks of an engine have their turns one after the other, and a clock that does not go back
measures spans that do not overlap. Together they are no longer than the time that the clock shows
at the end, which 64 bits hold; so the times of the results that the engine gives on a machine can
always be added up.
-/

namespace ContainerCert

open Run (Machine Signals Context)

/-- Time does not go back. -/
theorem Run.Signals.now_le_advance (signals : Signals) : signals.now ≤ signals.advance.now := by
  unfold advance
  split
  · exact Nat.le_refl _
  · exact Nat.le_add_right _ _

/-- The milliseconds that the clock of a machine shows. -/
def Run.Machine.clockTime (machine : Machine) : Nat :=
  min machine.signals.now (UInt64.size - 1)

theorem Run.Machine.clockTime_le_advance (machine : Machine) :
    machine.clockTime ≤ { machine with signals := machine.signals.advance }.clockTime := by
  have hnow := machine.signals.now_le_advance
  change min _ _ ≤ min machine.signals.advance.now _
  omega

namespace Check

open Report (Groups Results)

theorem milliseconds_record {σ : Type} (groups : Groups) (check : ContainerCert.Check σ)
    (elapsed : UInt64) (verdict : Verdict) :
    (record groups check elapsed verdict).milliseconds = groups.milliseconds + elapsed.toNat := by
  cases verdict <;> simp [record, Groups.milliseconds, entryOf] <;> omega

variable {context : Context Machine} {machine after : Machine}

/-- The time of a check is the span between two looks at the clock. -/
theorem evaluateTimed_span {check : ContainerCert.Check Machine} (hlooks : LooksOnly check)
    (target : Target) (machine : Machine) :
    machine.clockTime + (evaluateTimed Machine.clock target check machine).1.2.toNat ≤
      (evaluateTimed Machine.clock target check machine).2.clockTime := by
  let started : Machine := { machine with signals := machine.signals.advance }
  let ended : Machine := { started with signals := started.signals.advance }
  have hended : (evaluateTimed Machine.clock target check machine).2 = ended :=
    evaluateTimed_snd hlooks target machine
  have hevaluated : (check.evaluate target started).2 = started := hlooks target started
  have hspan : (evaluateTimed Machine.clock target check machine).1.2 =
      UInt64.ofNat (ended.clockTime - started.clockTime) := by
    change UInt64.ofNat (min (check.evaluate target started).2.signals.advance.now _ -
      started.clockTime) = _
    rw [hevaluated]
    rfl
  have hstarted : machine.clockTime ≤ started.clockTime := machine.clockTime_le_advance
  have hlater : started.clockTime ≤ ended.clockTime := started.clockTime_le_advance
  have hbound : ended.clockTime ≤ UInt64.size - 1 := Nat.min_le_right _ _
  have hsize : 0 < UInt64.size := by decide
  rw [hended, hspan, UInt64.toNat_ofNat_of_lt' (by omega)]
  omega

/-- While checks have their turns, their times add up to no more than the clock goes on. -/
theorem evaluateAll_span {checks : List (ContainerCert.Check Machine)}
    (hlooks : ∀ check ∈ checks, LooksOnly check) (target : Target) {groups given : Groups}
    (h : evaluateAll Machine.clock (Machine.scope context) target checks groups machine =
      (.ok given, after)) :
    given.milliseconds + machine.clockTime ≤ groups.milliseconds + after.clockTime := by
  induction checks generalizing groups machine with
  | nil =>
    obtain ⟨hgroups, rfl⟩ := Action.ending_inj.mp h
    cases hgroups
    exact Nat.le_refl _
  | cons check checks ih =>
    rw [List.forall_mem_cons] at hlooks
    have hlook := @checkpoint_apply context machine
    split at hlook
    · rw [evaluateAll, Action.bind_of_error hlook] at h
      cases h
    · rw [evaluateAll_of_look _ _ _ _ hlook] at h
      have hrest := ih hlooks.2 h
      have hspan := evaluateTimed_span hlooks.1 target
        { machine with signals := machine.signals.advance }
      have hstart := machine.clockTime_le_advance
      rw [milliseconds_record] at hrest
      omega

/-- The times of the results that the engine gives on a machine can be added up. -/
theorem addable_of_engine {image : String} {settings : EngineSettings}
    {checks : List (ContainerCert.Check Machine)} (hlooks : ∀ check ∈ checks, LooksOnly check)
    {results : Results}
    (h : engine Machine.clock image settings checks (Machine.scope context) machine =
      (.ok results, after)) : results.groups.Addable := by
  rw [engine] at h
  obtain ⟨⟨⟩, _, -, h⟩ := Action.bind_eq_ok.mp h
  obtain ⟨reference, _, -, h⟩ := Action.bind_eq_ok.mp h
  obtain ⟨⟨⟩, _, -, h⟩ := Action.bind_eq_ok.mp h
  obtain ⟨testedOn, _, -, h⟩ := Action.bind_eq_ok.mp h
  obtain ⟨groups, checked, hgroups, hresults⟩ := Action.bind_eq_ok.mp h
  obtain ⟨hresults, -⟩ := Action.ending_inj.mp hresults
  obtain rfl := Except.ok.inj hresults
  have hspan := evaluateAll_span hlooks _ hgroups
  have hbound : checked.clockTime ≤ UInt64.size - 1 := Nat.min_le_right _ _
  have hnone : Groups.none.milliseconds = 0 := rfl
  have hsize : 0 < UInt64.size := by decide
  change groups.milliseconds < UInt64.size
  omega

end Check
end ContainerCert
