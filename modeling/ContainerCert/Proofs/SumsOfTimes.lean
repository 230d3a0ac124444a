import ContainerCert.Report.Junit
import Mathlib.Algebra.Ring.Nat

/-!
# Sums of times

The time of a suite is added up check by check, and the program stops as soon as 64 bits do not hold
a sum. No sum on the way is larger than the last one, so there is a time for the suite exactly where
64 bits hold the sum of all times, and then it is this sum.
-/

namespace ContainerCert.Report

/-- The milliseconds that all checks took together. -/
def Groups.milliseconds (groups : Groups) : Nat :=
  ((groups.passed ++ groups.failed ++ groups.errors).map fun entry => entry.elapsed.toNat).sum

/-- 64 bits hold the sum of the times of all checks. -/
def Groups.Addable (groups : Groups) : Prop :=
  groups.milliseconds < UInt64.size

instance (groups : Groups) : Decidable groups.Addable :=
  inferInstanceAs (Decidable (_ < _))

namespace Junit

theorem addTimes?_eq_some_iff {first second sum : UInt64} :
    addTimes? first second = some sum ↔ sum.toNat = first.toNat + second.toNat := by
  have hbound := UInt64.toNat_lt_size sum
  rw [addTimes?]
  split
  · next hfits =>
    rw [Option.some.injEq, ← UInt64.toNat_inj, UInt64.toNat_add, eq_comm,
      Nat.mod_eq_of_lt (show _ < UInt64.size from hfits)]
  · next hlarge =>
    constructor
    · intro h
      cases h
    · intro h
      omega

/-- Where times are added up one by one, the last sum is that of all of them. -/
theorem foldlM_addTimes?_eq_some_iff {times : List UInt64} {start sum : UInt64} :
    times.foldlM addTimes? start = some sum ↔
      sum.toNat = start.toNat + (times.map UInt64.toNat).sum := by
  induction times generalizing start with
  | nil =>
    rw [List.foldlM_nil, List.map_nil, List.sum_nil, Nat.add_zero, UInt64.toNat_inj, eq_comm]
    exact Option.some_inj
  | cons time times ih =>
    rw [List.foldlM_cons, List.map_cons, List.sum_cons, Option.bind_eq_bind,
      Option.bind_eq_some_iff]
    constructor
    · rintro ⟨next, hnext, hsum⟩
      rw [ih.mp hsum, addTimes?_eq_some_iff.mp hnext, Nat.add_assoc]
    · intro hsum
      -- The first two are no more than the whole, so there is a sum to go on with.
      have hbound := UInt64.toNat_lt_size sum
      have hnext : (UInt64.ofNat (start.toNat + time.toNat)).toNat =
          start.toNat + time.toNat :=
        UInt64.toNat_ofNat_of_lt' (by omega)
      refine ⟨_, addTimes?_eq_some_iff.mpr hnext, ih.mpr ?_⟩
      rw [hsum, hnext, Nat.add_assoc]

theorem sum_map_tagged (groups : Groups) :
    ((groups.tagged.map fun (_, entry) => entry.elapsed).map UInt64.toNat).sum =
      groups.milliseconds := by
  simp [Groups.tagged, Groups.milliseconds, Function.comp_def]

theorem totalTime?_eq_some_iff {groups : Groups} {sum : UInt64} :
    totalTime? groups = some sum ↔ sum.toNat = groups.milliseconds := by
  rw [totalTime?, foldlM_addTimes?_eq_some_iff, sum_map_tagged, UInt64.toNat_zero, Nat.zero_add]

/-- There is a time for the suite where 64 bits hold it. -/
theorem exists_totalTime?_iff {groups : Groups} :
    (∃ sum, totalTime? groups = some sum) ↔ groups.Addable := by
  simp only [totalTime?_eq_some_iff]
  constructor
  · rintro ⟨sum, hsum⟩
    rw [Groups.Addable, ← hsum]
    exact UInt64.toNat_lt_size sum
  · intro hfits
    exact ⟨.ofNat groups.milliseconds, UInt64.toNat_ofNat_of_lt' hfits⟩

theorem render_eq_some_iff {results : Results} {text : String} :
    render results = some text ↔
      ∃ total, totalTime? results.groups = some total ∧ document results total = text :=
  Option.map_eq_some_iff

/-- There is a document exactly where the times of the checks can be added up. -/
theorem exists_render_iff {results : Results} :
    (∃ text, render results = some text) ↔ results.groups.Addable := by
  rw [← exists_totalTime?_iff]
  constructor
  · rintro ⟨text, htext⟩
    obtain ⟨total, htotal, -⟩ := render_eq_some_iff.mp htext
    exact ⟨total, htotal⟩
  · rintro ⟨total, htotal⟩
    exact ⟨_, render_eq_some_iff.mpr ⟨total, htotal, rfl⟩⟩

end Junit
end ContainerCert.Report
