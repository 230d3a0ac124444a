import ContainerCert.Proofs.JunitReading

/-!
# The times of JUnit documents

A document says how long every check took and how long the suite took as a whole. Each time is read
back to the millisecond, and the time of the suite is the sum of the times of its cases. Where 64
bits do not hold this sum there is no document.
-/

namespace ContainerCert.Report.Junit

open Xml (Node root?)

def isNamed (name : String) : Node → Bool
  | .text _ => false
  | .element other _ _ => other == name

/-- What stands in an element. -/
def inside : Node → List Node
  | .text _ => []
  | .element _ _ content => content

/-- The time of an element in milliseconds. -/
def time? : Node → Option Nat
  | .text _ => none
  | .element _ attributes _ => (attributes.lookup "time").bind milliseconds?

/-- The times that a document says, in milliseconds. -/
structure Times where
  suite : Nat
  cases : List Nat

/-- Read the times of the one suite of a document. -/
def Times.ofRoot? (root : Node) : Option Times :=
  match (inside root).filter (isNamed "testsuite") with
  | [suite] => do
    return ⟨← time? suite, ← ((inside suite).filter (isNamed "testcase")).mapM time?⟩
  | _ => none

theorem filter_lineNodes {name : String} (indent : String) (node : Node) :
    (lineNodes indent node).filter (isNamed name) = if isNamed name node then [node] else [] := by
  have htext : isNamed name (.text ("\n" ++ indent)) = false := rfl
  cases hnamed : isNamed name node <;> simp [lineNodes, htext, hnamed]

theorem time?_suiteNode (results : Results) (total : UInt64) :
    time? (suiteNode results total) = some total.toNat := by
  simp [suiteNode, countAttributes, time?, List.lookup_cons, milliseconds?_seconds]

theorem time?_caseNode (image : String) (outcome : Outcome) (entry : Entry) :
    time? (caseNode image outcome entry) = some entry.elapsed.toNat := by
  simp [caseNode, time?, List.lookup_cons, milliseconds?_seconds]

/-- The times of all cases are read. -/
theorem mapM_time? (image : String) (tagged : List (Outcome × Entry)) :
    ((tagged.flatMap fun (outcome, entry) =>
        lineNodes "    " (caseNode image outcome entry)).filter (isNamed "testcase")).mapM time? =
      some (tagged.map fun (_, entry) => entry.elapsed.toNat) := by
  induction tagged with
  | nil => rfl
  | cons first tagged ih =>
    have hnamed : isNamed "testcase" (caseNode image first.1 first.2) = true := by
      simp [caseNode, isNamed]
    rw [List.flatMap_cons, List.filter_append, filter_lineNodes, if_pos hnamed,
      List.singleton_append, List.mapM_cons, time?_caseNode, ih]
    rfl

theorem mapM_time?_suiteNode (results : Results) (total : UInt64) :
    ((inside (suiteNode results total)).filter (isNamed "testcase")).mapM time? =
      some ((results.groups.passed ++ results.groups.failed ++ results.groups.errors).map
        fun entry => entry.elapsed.toNat) := by
  have hproperties : isNamed "testcase" (propertiesNode results.platform) = false := by
    simp [propertiesNode, isNamed]
  have hclosing : (closing "  ").filter (isNamed "testcase") = [] := rfl
  rw [suiteNode, inside, List.filter_append, List.filter_append, filter_lineNodes, hproperties,
    hclosing, List.append_nil, if_neg Bool.false_ne_true, List.nil_append, mapM_time?]
  simp [Groups.tagged, Function.comp_def]

/-- The times that are read from the tree of results. -/
theorem Times.ofRoot?_rootNode (results : Results) (total : UInt64) :
    ofRoot? (rootNode results total) = some ⟨total.toNat,
      (results.groups.passed ++ results.groups.failed ++ results.groups.errors).map
        fun entry => entry.elapsed.toNat⟩ := by
  have hsuite : (inside (rootNode results total)).filter (isNamed "testsuite") =
      [suiteNode results total] := by
    have hnamed : isNamed "testsuite" (suiteNode results total) = true := by
      simp [suiteNode, isNamed]
    rw [rootNode, inside, List.filter_append, filter_lineNodes, if_pos hnamed]
    rfl
  rw [ofRoot?, hsuite]
  simp only [time?_suiteNode, mapM_time?_suiteNode]
  rfl

/-- The document of results says the times of all checks in the order passed, failed, errors, each
to the millisecond, and their sum as the time of the suite. There is a document exactly where 64
bits hold this sum. -/
theorem suite_time_of_render (results : Results) :
    let times := (results.groups.passed ++ results.groups.failed ++ results.groups.errors).map
      fun entry => entry.elapsed.toNat
    (times.sum < UInt64.size ∧ ∃ text root, render results = some text ∧ root? text = some root ∧
      Times.ofRoot? root = some ⟨times.sum, times⟩) ∨
    (UInt64.size ≤ times.sum ∧ render results = none) := by
  intro times
  have hexists : (∃ text, render results = some text) ↔ times.sum < UInt64.size :=
    exists_render_iff
  cases hrender : render results with
  | none =>
    refine .inr ⟨Nat.le_of_not_lt fun hfits => ?_, rfl⟩
    obtain ⟨text, htext⟩ := hexists.mpr hfits
    cases hrender.symm.trans htext
  | some text =>
    obtain ⟨total, htotal, rfl⟩ := render_eq_some_iff.mp hrender
    have hsum : total.toNat = times.sum := totalTime?_eq_some_iff.mp htotal
    refine .inl ⟨hexists.mp ⟨_, hrender⟩, _, rootNode results total, rfl,
      root?_document results total, ?_⟩
    rw [← hsum]
    exact Times.ofRoot?_rootNode results total

/-- The longest time and one more millisecond are too much for a suite. -/
theorem suite_time_of_render_overflows :
    let groups : Groups := ⟨[⟨"HasTagOrDigest", "", "", 18446744073709551615, ""⟩,
      ⟨"SupportedPlatform", "", "", 1, ""⟩], [], []⟩
    let results : Results :=
      ⟨Results.schemaName, "quay.io/example/app:1", "amd64", "2024-01-01T00:00:00Z", true, groups⟩
    render results = none ∧
      ¬ ∃ text root times, render results = some text ∧ root? text = some root ∧
        Times.ofRoot? root = some times ∧ times.suite = times.cases.sum := by
  intro groups results
  have hnone : render results = none := by decide
  refine ⟨hnone, ?_⟩
  rintro ⟨text, root, times, htext, -⟩
  cases hnone.symm.trans htext

end ContainerCert.Report.Junit
