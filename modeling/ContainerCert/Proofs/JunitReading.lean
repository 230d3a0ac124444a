import ContainerCert.Proofs.JunitDocuments
import ContainerCert.Proofs.SumsOfTimes

/-!
# Reading JUnit documents

A reader takes the document of results for what it says: the image, the platform, the time of the
run, the counts and every check with its verdict. It accepts no element or attribute beyond those,
and from the document of results it reads just what the results hold. There is such a document
wherever the times of the checks can be added up.
-/

namespace ContainerCert.Report.Junit

open Xml (Node root?)

/-! ### Numbers and times -/

/-- The number that a row of digits says. -/
def number? (row : List Char) : Option Nat :=
  if row ≠ [] ∧ row.all Char.isDigit = true then some (Nat.ofDigitChars 10 row 0) else none

/-- The milliseconds of a time in seconds with three places. -/
def milliseconds? (time : String) : Option Nat := do
  let (whole, places) ← Text.cutFirst? '.' time.toList
  let seconds ← number? whole
  let thousandths ← number? places
  if places.length = 3 then return 1000 * seconds + thousandths else none

theorem number?_of_digits {row : List Char} (hne : row ≠ [])
    (hdigits : ∀ c ∈ row, c.isDigit = true) :
    number? row = some (Nat.ofDigitChars 10 row 0) := by
  rw [number?, if_pos ⟨hne, List.all_eq_true.mpr hdigits⟩]

theorem number?_toString (n : Nat) : number? (toString n).toList = some n := by
  have hdigits : (toString n).toList = Nat.toDigits 10 n := by
    rw [Nat.toString_eq_repr, Nat.toList_repr]
  have hne : (toString n).toList ≠ [] := by
    rw [hdigits]
    exact Nat.toDigits_ne_nil
  rw [number?_of_digits hne fun _ => isDigit_of_mem_toString, hdigits,
    Nat.ofDigitChars_ten_toDigits]

theorem number?_threeDigits {n : Nat} (h : n < 1000) : number? (threeDigits n).toList = some n := by
  have hvalue : Nat.ofDigitChars 10 (threeDigits n).toList 0 = n := by
    rw [threeDigits, String.toList_ofList, Nat.ofDigitChars_cons_digitChar_of_lt_ten (by omega),
      Nat.ofDigitChars_cons_digitChar_of_lt_ten (by omega),
      Nat.ofDigitChars_cons_digitChar_of_lt_ten (by omega), Nat.ofDigitChars_nil]
    omega
  have hne : (threeDigits n).toList ≠ [] := by simp [threeDigits]
  rw [number?_of_digits hne fun _ => isDigit_of_mem_threeDigits, hvalue]

/-- A time is read back to the millisecond. -/
theorem milliseconds?_seconds (milliseconds : UInt64) :
    milliseconds? (seconds milliseconds) = some milliseconds.toNat := by
  have hpoint : '.' ∉ (toString (milliseconds.toNat / 1000)).toList := by
    intro hmem
    exact absurd (isDigit_of_mem_toString hmem) (by decide)
  have hcut : Text.cutFirst? '.' (seconds milliseconds).toList =
      some ((toString (milliseconds.toNat / 1000)).toList,
        (threeDigits (milliseconds.toNat % 1000)).toList) := by
    simpa [seconds] using Text.cutFirst?_append hpoint
      (threeDigits (milliseconds.toNat % 1000)).toList
  have hplaces : (threeDigits (milliseconds.toNat % 1000)).toList.length = 3 := by
    simp [threeDigits]
  simp only [milliseconds?, hcut, Option.bind_eq_bind, Option.bind_some, number?_toString,
    number?_threeDigits (Nat.mod_lt milliseconds.toNat (by omega : 1000 > 0)), hplaces, if_true]
  exact congrArg some (Nat.div_add_mod milliseconds.toNat 1000)

/-! ### What a document says -/

/-- What became of a check, with the reason and the help where it did not pass. -/
inductive Verdict where
  | passed
  | failed (reason help : String)
  | errored (reason help : String)

/-- What a document says about one check. -/
structure Case where
  image : String
  name : String
  /-- The milliseconds that the check took. -/
  elapsed : Nat
  description : String
  verdict : Verdict

/-- The numbers of checks, of those that failed and of those that could not be evaluated. -/
structure Counts where
  total : Nat
  failed : Nat
  errors : Nat

/-- What a document says. -/
structure Reading where
  image : String
  platform : String
  testedOn : String
  /-- The counts of all suites. -/
  overall : Counts
  /-- The counts of the one suite. -/
  counts : Counts
  cases : List Case

/-- What results hold about one check with such a verdict. -/
def Case.ofEntry (image : String) (verdict : Verdict) (entry : Entry) : Case where
  image
  name := entry.name
  elapsed := entry.elapsed.toNat
  description := entry.description
  verdict

/-- The counts of results. -/
def Counts.ofGroups (groups : Groups) : Counts where
  total := groups.passed.length + groups.failed.length + groups.errors.length
  failed := groups.failed.length
  errors := groups.errors.length

/-- What results hold of what a document says: there is one case for each check, first those that
passed, then those that failed, and last those that could not be evaluated. -/
def Reading.ofResults (results : Results) : Reading where
  image := results.image
  platform := results.platform
  testedOn := results.testedOn
  overall := .ofGroups results.groups
  counts := .ofGroups results.groups
  cases := results.groups.passed.map (.ofEntry results.image .passed) ++
    results.groups.failed.map (fun entry =>
      .ofEntry results.image (.failed entry.reason entry.help) entry) ++
    results.groups.errors.map fun entry =>
      .ofEntry results.image (.errored entry.reason entry.help) entry

/-- The names of all elements in the document of results, in the order of their tags. -/
def elementsOf (results : Results) : List String :=
  ["testsuites", "testsuite", "properties", "property"] ++
    results.groups.passed.flatMap (fun _ => ["testcase", "system-out"]) ++
    results.groups.failed.flatMap (fun _ => ["testcase", "failure", "system-out"]) ++
    results.groups.errors.flatMap fun _ => ["testcase", "error", "system-out"]

/-! ### The reader -/

/-- The text of an element that holds nothing else. -/
def text? : List Node → Option String
  | [] => some ""
  | [.text content] => some content
  | _ => none

/-- What stands in an element apart from blanks. -/
def parts (content : List Node) : List Node :=
  content.filter (!·.isBlank)

def Counts.ofAttributes? : List (String × String) → Option Counts
  | [("tests", total), ("failures", failed), ("errors", errors)] => do
    return ⟨← number? total.toList, ← number? failed.toList, ← number? errors.toList⟩
  | _ => none

/-- The verdict of the elements before the description in a case. -/
def Verdict.ofNodes? : List Node → Option Verdict
  | [] => some .passed
  | [.element "failure" [("message", reason), ("type", "")] help] => do
    return .failed reason (← text? help)
  | [.element "error" [("message", reason), ("type", "")] help] => do
    return .errored reason (← text? help)
  | _ => none

def Case.ofNode? : Node → Option Case
  | .element "testcase" [("classname", image), ("name", name), ("time", time)] content =>
    match (parts content).reverse with
    | .element "system-out" [] description :: problems => do
      let elapsed ← milliseconds? time
      let description ← text? description
      let verdict ← Verdict.ofNodes? problems.reverse
      return ⟨image, name, elapsed, description, verdict⟩
    | _ => none
  | _ => none

def platform? : Node → Option String
  | .element "properties" [] [.element "property" [("name", "platform"), ("value", platform)] []] =>
    some platform
  | _ => none

/-- Read the one suite of a document. -/
def Reading.ofRoot? : Node → Option Reading
  | .element "testsuites" (("name", "preflight") :: overall) content =>
    match parts content with
    | [.element "testsuite" [("name", image), total, failed, errors, ("time", _),
        ("timestamp", testedOn)] content] =>
      match parts content with
      | properties :: cases => do
        return ⟨image, ← platform? properties, testedOn, ← Counts.ofAttributes? overall,
          ← Counts.ofAttributes? [total, failed, errors], ← cases.mapM Case.ofNode?⟩
      | [] => none
    | _ => none
  | _ => none

/-! ### What is read -/

/-- The verdict for what became of a check. -/
def Verdict.ofEntry : Outcome → Entry → Verdict
  | .passed, _ => .passed
  | .failed, entry => .failed entry.reason entry.help
  | .errored, entry => .errored entry.reason entry.help

theorem text?_texts (content : String) : text? (texts content) = some content := by
  unfold texts
  split
  · next hempty => rw [hempty]; rfl
  · rfl

theorem Counts.ofAttributes?_countAttributes (groups : Groups) :
    ofAttributes? (countAttributes groups) = some (ofGroups groups) := by
  simp only [ofAttributes?, countAttributes, number?_toString]
  rfl

theorem parts_append (content others : List Node) :
    parts (content ++ others) = parts content ++ parts others :=
  List.filter_append content others

/-- A node on lines of its own is the only part of them. -/
theorem parts_lineNodes {indent : String} (hindent : (Node.text ("\n" ++ indent)).isBlank = true)
    {node : Node} (hnode : node.isBlank = false) : parts (lineNodes indent node) = [node] := by
  simp [parts, lineNodes, hindent, hnode]

theorem parts_closing {indent : String} (hindent : (Node.text ("\n" ++ indent)).isBlank = true) :
    parts (closing indent) = [] := by
  simp [parts, closing, hindent]

theorem Verdict.ofNodes?_verdictNodes (outcome : Outcome) (entry : Entry) :
    ofNodes? (parts (verdictNodes outcome entry)) = some (ofEntry outcome entry) := by
  cases outcome with
  | passed => rfl
  | failed =>
    rw [verdictNodes, parts_lineNodes (by decide) rfl]
    simp [ofNodes?, problemNode, text?_texts, ofEntry]
  | errored =>
    rw [verdictNodes, parts_lineNodes (by decide) rfl]
    simp [ofNodes?, problemNode, text?_texts, ofEntry]

theorem Case.ofNode?_caseNode (image : String) (outcome : Outcome) (entry : Entry) :
    ofNode? (caseNode image outcome entry) =
      some (ofEntry image (.ofEntry outcome entry) entry) := by
  have hparts : parts (verdictNodes outcome entry ++
      lineNodes "      " (.element "system-out" [] (texts entry.description)) ++ closing "    ") =
      parts (verdictNodes outcome entry) ++
        [.element "system-out" [] (texts entry.description)] := by
    rw [parts_append, parts_append, parts_lineNodes (by decide) rfl, parts_closing (by decide),
      List.append_nil]
  rw [caseNode, ofNode?, hparts]
  simp [milliseconds?_seconds, text?_texts, Verdict.ofNodes?_verdictNodes, ofEntry]

/-- The cases of all checks are read. -/
theorem mapM_ofNode? (image : String) (tagged : List (Outcome × Entry)) :
    (parts (tagged.flatMap fun (outcome, entry) =>
        lineNodes "    " (caseNode image outcome entry))).mapM Case.ofNode? =
      some (tagged.map fun (outcome, entry) =>
        .ofEntry image (.ofEntry outcome entry) entry) := by
  induction tagged with
  | nil => rfl
  | cons first tagged ih =>
    rw [List.flatMap_cons, parts_append, parts_lineNodes (by decide) rfl, List.singleton_append,
      List.mapM_cons, Case.ofNode?_caseNode, ih]
    rfl

theorem Reading.ofRoot?_rootNode (results : Results) (total : UInt64) :
    ofRoot? (rootNode results total) = some (ofResults results) := by
  have hsuite : parts (lineNodes "  " (suiteNode results total) ++ closing "") =
      [suiteNode results total] := by
    rw [parts_append, parts_lineNodes (by decide) rfl, parts_closing (by decide), List.append_nil]
  have hparts : parts (lineNodes "    " (propertiesNode results.platform) ++
      results.groups.tagged.flatMap (fun (outcome, entry) =>
        lineNodes "    " (caseNode results.image outcome entry)) ++ closing "  ") =
      propertiesNode results.platform :: parts (results.groups.tagged.flatMap
        fun (outcome, entry) => lineNodes "    " (caseNode results.image outcome entry)) := by
    rw [parts_append, parts_append, parts_lineNodes (by decide) rfl, parts_closing (by decide),
      List.append_nil, List.singleton_append]
  have hcounts := Counts.ofAttributes?_countAttributes results.groups
  have hplatform : platform? (propertiesNode results.platform) = some results.platform := rfl
  have hcases : (results.groups.tagged.map fun (outcome, entry) =>
      Case.ofEntry results.image (.ofEntry outcome entry) entry) = (ofResults results).cases := by
    simp [Groups.tagged, ofResults, Verdict.ofEntry, Function.comp_def]
  rw [rootNode, ofRoot?, hsuite]
  simp only [suiteNode, countAttributes, List.cons_append, List.nil_append, hparts]
  rw [countAttributes] at hcounts
  simp only [hplatform, hcounts, mapM_ofNode?, hcases]
  rfl

/-! ### The elements of a document -/

mutual

/-- The names of a node and of all elements in it, in the order of their tags. -/
def elementNames : Node → List String
  | .text _ => []
  | .element name _ content => name :: elementNamesIn content

/-- The names of all elements among nodes. -/
def elementNamesIn : List Node → List String
  | [] => []
  | node :: nodes => elementNames node ++ elementNamesIn nodes

end

/-- The elements of the case of a check. -/
def caseElements : Outcome → List String
  | .passed => ["testcase", "system-out"]
  | .failed => ["testcase", "failure", "system-out"]
  | .errored => ["testcase", "error", "system-out"]

theorem elementNamesIn_append (nodes others : List Node) :
    elementNamesIn (nodes ++ others) = elementNamesIn nodes ++ elementNamesIn others := by
  induction nodes with
  | nil => rfl
  | cons node nodes ih =>
    rw [List.cons_append, elementNamesIn, elementNamesIn, ih, List.append_assoc]

theorem elementNamesIn_lineNodes (indent : String) (node : Node) :
    elementNamesIn (lineNodes indent node) = elementNames node := by
  simp [lineNodes, elementNamesIn, elementNames]

theorem elementNamesIn_texts (content : String) : elementNamesIn (texts content) = [] := by
  unfold texts
  split <;> rfl

theorem elementNames_caseNode (image : String) (outcome : Outcome) (entry : Entry) :
    elementNames (caseNode image outcome entry) = caseElements outcome := by
  cases outcome <;>
    simp [caseNode, verdictNodes, problemNode, closing, elementNames, elementNamesIn,
      elementNamesIn_append, elementNamesIn_lineNodes, elementNamesIn_texts, caseElements]

theorem elementNamesIn_cases (image : String) (tagged : List (Outcome × Entry)) :
    elementNamesIn (tagged.flatMap fun (outcome, entry) =>
        lineNodes "    " (caseNode image outcome entry)) =
      tagged.flatMap fun (outcome, _) => caseElements outcome := by
  induction tagged with
  | nil => rfl
  | cons first tagged ih =>
    rw [List.flatMap_cons, elementNamesIn_append, elementNamesIn_lineNodes, elementNames_caseNode,
      ih, List.flatMap_cons]

theorem elementNames_rootNode (results : Results) (total : UInt64) :
    elementNames (rootNode results total) = elementsOf results := by
  have hcases : (results.groups.tagged.flatMap fun (outcome, _) => caseElements outcome) =
      results.groups.passed.flatMap (fun _ => ["testcase", "system-out"]) ++
        results.groups.failed.flatMap (fun _ => ["testcase", "failure", "system-out"]) ++
        results.groups.errors.flatMap fun _ => ["testcase", "error", "system-out"] := by
    simp [Groups.tagged, List.flatMap_append, List.flatMap_map, caseElements]
  simp [rootNode, suiteNode, propertiesNode, closing, elementNames, elementNamesIn,
    elementNamesIn_append, elementNamesIn_lineNodes, elementNamesIn_cases, hcases, elementsOf]

/-- There is a document for results exactly where the times of their checks can be added up. It is
read as one element. The elements in it are the two around the suite, the properties and those of
the cases, one case for each check in the order passed, failed, errors, and it is read as what the
results hold; so other results with the same document agree on all of it. -/
theorem reading_of_render (results : Results) :
    ((∃ text, render results = some text) ↔ results.groups.Addable) ∧
    ∀ text, render results = some text →
      (∃ root, root? text = some root ∧ elementNames root = elementsOf results ∧
        Reading.ofRoot? root = some (.ofResults results)) ∧
      ∀ other, render other = some text → Reading.ofResults other = Reading.ofResults results := by
  have hread {results : Results} {text : String} (hrender : render results = some text) :
      ∃ root, root? text = some root ∧ elementNames root = elementsOf results ∧
        Reading.ofRoot? root = some (.ofResults results) := by
    obtain ⟨total, -, rfl⟩ := render_eq_some_iff.mp hrender
    exact ⟨rootNode results total, root?_document results total,
      elementNames_rootNode results total, Reading.ofRoot?_rootNode results total⟩
  refine ⟨exists_render_iff, fun text hrender => ⟨hread hrender, fun other hother => ?_⟩⟩
  obtain ⟨root, hroot, -, hreading⟩ := hread hrender
  obtain ⟨same, hsame, -, hotherReading⟩ := hread hother
  obtain rfl : same = root := Option.some.inj (hsame.symm.trans hroot)
  exact Option.some.inj (hotherReading.symm.trans hreading)

/-- Of a check in each list, with texts that look like elements and attributes, everything is read
back. -/
theorem reading_of_render_of_each_verdict :
    let groups : Groups :=
      ⟨[⟨"<check name=\"a\">", "a & b", "", 1500, ""⟩],
        [⟨"Labels", "'labels'", "<help/>", 0, "</failure>"⟩],
        [⟨"Layers", "", "", 61001, "\" type=\"x"⟩]⟩
    let results : Results :=
      ⟨Results.schemaName, "quay.io/example/app:1", "amd64", "2024-01-01", false, groups⟩
    ∃ text root, render results = some text ∧ root? text = some root ∧
      elementNames root = ["testsuites", "testsuite", "properties", "property", "testcase",
        "system-out", "testcase", "failure", "system-out", "testcase", "error", "system-out"] ∧
      Reading.ofRoot? root = some ⟨"quay.io/example/app:1", "amd64", "2024-01-01", ⟨3, 1, 1⟩,
        ⟨3, 1, 1⟩,
        [⟨"quay.io/example/app:1", "<check name=\"a\">", 1500, "a & b", .passed⟩,
          ⟨"quay.io/example/app:1", "Labels", 0, "'labels'", .failed "</failure>" "<help/>"⟩,
          ⟨"quay.io/example/app:1", "Layers", 61001, "", .errored "\" type=\"x" ""⟩]⟩ := by
  intro groups results
  have hfits : results.groups.Addable := by decide
  obtain ⟨hexists, hread⟩ := reading_of_render results
  obtain ⟨text, htext⟩ := hexists.mpr hfits
  obtain ⟨⟨root, hroot, helements, hreading⟩, -⟩ := hread text htext
  exact ⟨text, root, htext, hroot, helements, hreading⟩

/-- Results whose times add up to more than 64 bits hold have no document that could be read. -/
theorem no_document_of_long_checks :
    let groups : Groups :=
      ⟨[⟨"HasTagOrDigest", "", "", 9223372036854775808, ""⟩],
        [⟨"SupportedPlatform", "", "", 9223372036854775808, "platform s390 is not supported"⟩], []⟩
    let results : Results :=
      ⟨Results.schemaName, "quay.io/example/app:1", "s390", "2024-01-01T00:00:00Z", false, groups⟩
    render results = none ∧
      ¬ ∃ text root, render results = some text ∧ root? text = some root ∧
        Reading.ofRoot? root = some (.ofResults results) := by
  intro groups results
  have hnone : render results = none := by decide
  refine ⟨hnone, ?_⟩
  rintro ⟨text, root, htext, -⟩
  cases hnone.symm.trans htext

end ContainerCert.Report.Junit
