import ContainerCert.Proofs.XmlReading
import ContainerCert.Report.Junit

/-!
# The JUnit document as elements

Results are a tree of elements that hold the texts as they are, and the document spells this tree.
Texts are escaped wherever they stand in the document, so they end up in the attributes and elements
that they were put in, whatever characters they have. Every element but the property is on lines of
its own, and what stands between the elements is the end of a line with the blanks of the next one.
-/

namespace ContainerCert.Report.Junit

open Xml (Node Spells Writes WritesAttributes WritesTag entities textStops valueStops isName
  declaration rootOf? root? root?_of_spells)

/-- An escaped character is referred to by its name, or it stands for itself. -/
theorem escapeChar_cases (c : Char) :
    (∃ name, (c, name) ∈ entities ∧ escapeChar c = '&' :: name.toList ++ [';']) ∨
      c ∉ entities.map Prod.fst ∧ escapeChar c = [c] := by
  unfold escapeChar
  split
  · exact .inl ⟨"amp", by decide, rfl⟩
  · exact .inl ⟨"lt", by decide, rfl⟩
  · exact .inl ⟨"gt", by decide, rfl⟩
  · exact .inl ⟨"quot", by decide, rfl⟩
  · exact .inl ⟨"apos", by decide, rfl⟩
  · exact .inr ⟨by simp_all [entities], rfl⟩

theorem writes_flatMap_escapeChar {stops : List Char} (hstops : stops ⊆ entities.map Prod.fst)
    (value : List Char) : Writes stops value (value.flatMap escapeChar) := by
  induction value with
  | nil => exact .nil
  | cons c value ih =>
    rw [List.flatMap_cons]
    obtain ⟨name, hentity, hc⟩ | ⟨hplain, hc⟩ := escapeChar_cases c
    · rw [hc]
      simpa using Writes.reference hentity ih
    · rw [hc]
      exact .plain (fun hstop => hplain (hstops hstop)) ih

/-- An escaped text is written as the grammar wants it in values and elements. -/
theorem writes_escape {stops : List Char} (hstops : stops ⊆ entities.map Prod.fst)
    (text : String) : Writes stops text.toList (escape text).toList := by
  rw [escape, String.toList_ofList]
  exact writes_flatMap_escapeChar hstops text.toList

/-- Characters without a meaning of their own stand for themselves. -/
theorem escape_eq_self {text : String} (h : ∀ c ∈ text.toList, c ∉ entities.map Prod.fst) :
    escape text = text := by
  have hchars (value : List Char) (h : ∀ c ∈ value, c ∉ entities.map Prod.fst) :
      value.flatMap escapeChar = value := by
    induction value with
    | nil => rfl
    | cons c value ih =>
      obtain ⟨hc, hvalue⟩ := List.forall_mem_cons.mp h
      obtain ⟨name, hentity, -⟩ | ⟨-, hplain⟩ := escapeChar_cases c
      · exact absurd (List.mem_map_of_mem hentity) hc
      · rw [List.flatMap_cons, hplain, ih hvalue, List.singleton_append]
  rw [escape, hchars _ h, String.ofList_toList]

theorem ne_entity_of_isDigit {c : Char} (h : c.isDigit = true) : c ∉ entities.map Prod.fst := by
  have hnone : (entities.map Prod.fst).all (!·.isDigit) = true := by decide
  intro hmem
  have hdigit := List.all_eq_true.mp hnone c hmem
  rw [h] at hdigit
  cases hdigit

theorem isDigit_of_mem_toString {n : Nat} {c : Char} (h : c ∈ (toString n).toList) :
    c.isDigit = true := by
  rw [Nat.toString_eq_repr, Nat.toList_repr] at h
  exact Nat.isDigit_of_mem_toDigits (by omega) (by omega) h

theorem isDigit_of_mem_threeDigits {n : Nat} {c : Char} (h : c ∈ (threeDigits n).toList) :
    c.isDigit = true := by
  simp only [threeDigits, String.toList_ofList, List.mem_cons, List.not_mem_nil, or_false] at h
  rcases h with rfl | rfl | rfl <;> simp [Nat.isDigit_digitChar, Nat.mod_lt]

/-- Numbers stand for themselves. -/
theorem escape_toString (n : Nat) : escape (toString n) = toString n :=
  escape_eq_self fun _ hc => ne_entity_of_isDigit (isDigit_of_mem_toString hc)

/-- Times stand for themselves. -/
theorem escape_seconds (milliseconds : UInt64) :
    escape (seconds milliseconds) = seconds milliseconds := by
  refine escape_eq_self fun c hc => ?_
  simp only [seconds, String.toList_append, List.mem_append] at hc
  obtain (hwhole | hpoint) | hplaces := hc
  · exact ne_entity_of_isDigit (isDigit_of_mem_toString hwhole)
  · obtain rfl : c = '.' := by simpa using hpoint
    decide
  · exact ne_entity_of_isDigit (isDigit_of_mem_threeDigits hplaces)

/-! ### The tree -/

/-- The text in an element; an empty one is not there. -/
def texts (content : String) : List Node :=
  if content = "" then [] else [.text content]

/-- A node on lines of its own, behind what ended the line before. -/
def lineNodes (indent : String) (node : Node) : List Node :=
  [.text ("\n" ++ indent), node]

/-- What stands between the last line in an element and its closing tag. -/
def closing (indent : String) : List Node :=
  [.text ("\n" ++ indent)]

/-- The counts of checks. -/
def countAttributes (groups : Groups) : List (String × String) :=
  [("tests", toString groups.total), ("failures", toString groups.failed.length),
    ("errors", toString groups.errors.length)]

/-- The element that says why a check did not pass. -/
def problemNode (element : String) (entry : Entry) : Node :=
  .element element [("message", entry.reason), ("type", "")] (texts entry.help)

/-- What says what became of a check, if it did not pass. -/
def verdictNodes : Outcome → Entry → List Node
  | .passed, _ => []
  | .failed, entry => lineNodes "      " (problemNode "failure" entry)
  | .errored, entry => lineNodes "      " (problemNode "error" entry)

/-- The case of one check. -/
def caseNode (image : String) (outcome : Outcome) (entry : Entry) : Node :=
  .element "testcase"
    [("classname", image), ("name", entry.name), ("time", seconds entry.elapsed)]
    (verdictNodes outcome entry ++
      lineNodes "      " (.element "system-out" [] (texts entry.description)) ++ closing "    ")

/-- The properties of the run. -/
def propertiesNode (platform : String) : Node :=
  .element "properties" []
    [.element "property" [("name", "platform"), ("value", platform)] []]

/-- The suite of the image, with its time. -/
def suiteNode (results : Results) (total : UInt64) : Node :=
  .element "testsuite"
    (("name", results.image) :: countAttributes results.groups ++
      [("time", seconds total), ("timestamp", results.testedOn)])
    (lineNodes "    " (propertiesNode results.platform) ++
      results.groups.tagged.flatMap (fun (outcome, entry) =>
        lineNodes "    " (caseNode results.image outcome entry)) ++ closing "  ")

/-- The element of the document. -/
def rootNode (results : Results) (total : UInt64) : Node :=
  .element "testsuites" (("name", "preflight") :: countAttributes results.groups)
    (lineNodes "  " (suiteNode results total) ++ closing "")

/-! ### The document spells the tree -/

/-- Attributes in a tag, their values escaped. -/
def attributesText (attributes : List (String × String)) : String :=
  String.join (attributes.map fun (name, value) => assigned name (escape value))

theorem attributesText_nil : attributesText [] = "" :=
  rfl

theorem attributesText_cons (name value : String) (attributes : List (String × String)) :
    attributesText ((name, value) :: attributes) =
      assigned name (escape value) ++ attributesText attributes := by
  apply String.toList_inj.mp
  simp [attributesText, String.toList_join]

theorem attributesText_append (attributes others : List (String × String)) :
    attributesText (attributes ++ others) = attributesText attributes ++ attributesText others := by
  apply String.toList_inj.mp
  simp [attributesText, String.toList_join]

theorem counts_eq (groups : Groups) : counts groups = attributesText (countAttributes groups) := by
  simp only [counts, countAttributes, attributesText_cons, attributesText_nil, escape_toString,
    String.append_assoc, String.append_empty]

/-- An element on lines of its own. -/
def line (indent name : String) (attributes : List (String × String)) (inner : String) : String :=
  indent ++ "<" ++ name ++ attributesText attributes ++ ">" ++ inner ++ "</" ++ name ++ ">\n"

/-- The names of an element and its attributes are names, those of the attributes different ones. -/
def Proper (name : String) (attributes : List String) : Prop :=
  isName name.toList = true ∧ attributes.Nodup ∧
    ∀ other ∈ attributes, isName other.toList = true

instance (name : String) (attributes : List String) : Decidable (Proper name attributes) :=
  inferInstanceAs (Decidable (_ ∧ _ ∧ _))

variable {nodes content : List Node} {rest : List Char} {name : String}
  {attributes : List (String × String)}

theorem writesAttributes (h : ∀ other ∈ attributes.map Prod.fst, isName other.toList = true) :
    WritesAttributes attributes (attributesText attributes).toList := by
  induction attributes with
  | nil => exact .nil
  | cons first attributes ih =>
    obtain ⟨hfirst, hrest⟩ := List.forall_mem_cons.mp h
    have hvalue : Writes valueStops first.2.toList (escape first.2).toList :=
      writes_escape (by decide) first.2
    simpa [attributesText, assigned, String.toList_join] using
      WritesAttributes.cons hfirst hvalue (ih hrest)

theorem writesTag (h : Proper name (attributes.map Prod.fst)) :
    WritesTag name attributes (name ++ attributesText attributes).toList := by
  obtain ⟨hname, hdistinct, hattributes⟩ := h
  rw [String.toList_append]
  exact .mk hname hdistinct (writesAttributes hattributes)

/-- An escaped text spells the text. -/
theorem spells_texts (content : String) : Spells (texts content) (escape content).toList := by
  unfold texts
  split
  · next hempty =>
    subst hempty
    exact .nil
  · next hne =>
    have hwrites : Writes textStops content.toList (escape content).toList :=
      writes_escape (by decide) content
    simpa using Spells.text hne hwrites (by simp) .nil

/-- The end of a line and blanks spell themselves before a tag. -/
theorem spells_indent {indent : String} (hindent : escape ("\n" ++ indent) = "\n" ++ indent)
    (hends : ∀ c ∈ rest.head?, c = '<') (hrest : Spells nodes rest) :
    Spells (.text ("\n" ++ indent) :: nodes) ('\n' :: indent.toList ++ rest) := by
  have hwrites : Writes textStops ("\n" ++ indent).toList ("\n" ++ indent).toList := by
    nth_rewrite 2 [← hindent]
    exact writes_escape (by decide) _
  simpa using Spells.text (by simp) hwrites hends hrest

theorem spells_closing {indent : String} (hindent : escape ("\n" ++ indent) = "\n" ++ indent) :
    Spells (closing indent) ('\n' :: indent.toList) := by
  simpa [closing] using spells_indent hindent (by simp) Spells.nil

/-- An element on lines of its own, before nodes that begin on the next line. -/
theorem spells_line {indent inner : String} (hindent : escape ("\n" ++ indent) = "\n" ++ indent)
    (hproper : Proper name (attributes.map Prod.fst)) (hcontent : Spells content inner.toList)
    (hrest : Spells nodes ('\n' :: rest)) :
    Spells (lineNodes indent (.element name attributes content) ++ nodes)
      ('\n' :: (line indent name attributes inner).toList ++ rest) := by
  have helement := Spells.element (writesTag hproper) hcontent hrest
  have hline := spells_indent hindent (by simp) helement
  simpa [line, lineNodes] using hline

theorem problem_eq_line (element : String) (entry : Entry) :
    problem element entry =
      line "      " element [("message", entry.reason), ("type", "")] (escape entry.help) := by
  have hnone : escape "" = "" := rfl
  unfold problem
  apply String.toList_inj.mp
  simp [line, attributesText_cons, attributesText_nil, hnone]

theorem testcase_eq_line (image : String) (outcome : Outcome) (entry : Entry) :
    testcase image outcome entry =
      line "    " "testcase"
        [("classname", image), ("name", entry.name), ("time", seconds entry.elapsed)]
        ("\n" ++ verdict outcome entry ++
          line "      " "system-out" [] (escape entry.description) ++ "    ") := by
  unfold testcase
  apply String.toList_inj.mp
  simp [line, attributesText_cons, attributesText_nil, escape_seconds]

/-- The properties on their line. -/
def propertiesLine (platform : String) : String :=
  line "    " "properties" []
    ("<property" ++ attributesText [("name", "platform"), ("value", platform)] ++ "/>")

/-- The suite on its lines. -/
def suiteLines (results : Results) (total : UInt64) : String :=
  line "  " "testsuite"
    (("name", results.image) :: countAttributes results.groups ++
      [("time", seconds total), ("timestamp", results.testedOn)])
    ("\n" ++ propertiesLine results.platform ++
      String.join (results.groups.tagged.map fun (outcome, entry) =>
        testcase results.image outcome entry) ++ "  ")

theorem document_eq_line (results : Results) (total : UInt64) :
    (document results total).toList = declaration ++
      '\n' :: (line "" "testsuites" (("name", "preflight") :: countAttributes results.groups)
        ("\n" ++ suiteLines results total)).toList := by
  have hname : escape "preflight" = "preflight" := by decide
  have hplatform : escape "platform" = "platform" := by decide
  unfold document declaration
  simp [line, propertiesLine, suiteLines, attributesText_cons, attributesText_append,
    attributesText_nil, counts_eq, escape_seconds, hname, hplatform]

/-- What says what became of a check is spelled in front of what follows it in the case. -/
theorem spells_verdict (outcome : Outcome) (entry : Entry) (hrest : Spells nodes ('\n' :: rest)) :
    Spells (verdictNodes outcome entry ++ nodes)
      ('\n' :: (verdict outcome entry).toList ++ rest) := by
  have hproblem {element : String} (hproper : Proper element ["message", "type"]) :
      Spells (lineNodes "      " (problemNode element entry) ++ nodes)
        ('\n' :: (problem element entry).toList ++ rest) := by
    rw [problem_eq_line]
    exact spells_line (by decide) hproper (spells_texts entry.help) hrest
  cases outcome with
  | passed => simpa [verdict, verdictNodes] using hrest
  | failed => exact hproblem (by decide)
  | errored => exact hproblem (by decide)

/-- The case of a check is spelled in front of what follows it in the suite. -/
theorem spells_case (image : String) (outcome : Outcome) (entry : Entry)
    (hrest : Spells nodes ('\n' :: rest)) :
    Spells (lineNodes "    " (caseNode image outcome entry) ++ nodes)
      ('\n' :: (testcase image outcome entry).toList ++ rest) := by
  have hclosing : Spells (closing "    ") ('\n' :: "    ".toList) := spells_closing (by decide)
  have hdescription : Spells
      (lineNodes "      " (.element "system-out" [] (texts entry.description)) ++ closing "    ")
      ('\n' :: (line "      " "system-out" [] (escape entry.description)).toList ++
        "    ".toList) :=
    spells_line (by decide) (by decide) (spells_texts entry.description) hclosing
  have hcontent := spells_verdict outcome entry hdescription
  rw [testcase_eq_line]
  refine spells_line (by decide) (show Proper "testcase" ["classname", "name", "time"] by decide)
    ?_ hrest
  simpa using hcontent

/-- The cases of all checks are spelled in front of what follows them. -/
theorem spells_cases (image : String) (tagged : List (Outcome × Entry))
    (hrest : Spells nodes ('\n' :: rest)) :
    Spells (tagged.flatMap (fun (outcome, entry) =>
        lineNodes "    " (caseNode image outcome entry)) ++ nodes)
      ('\n' :: (String.join (tagged.map fun (outcome, entry) =>
        testcase image outcome entry)).toList ++ rest) := by
  induction tagged with
  | nil => exact hrest
  | cons first tagged ih =>
    simpa [String.toList_join] using spells_case image first.1 first.2 ih

theorem spells_properties (platform : String) (hrest : Spells nodes ('\n' :: rest)) :
    Spells (lineNodes "    " (propertiesNode platform) ++ nodes)
      ('\n' :: (propertiesLine platform).toList ++ rest) := by
  have htag : WritesTag "property" [("name", "platform"), ("value", platform)] _ :=
    writesTag (show Proper "property" ["name", "value"] by decide)
  refine spells_line (by decide) (show Proper "properties" [] by decide) ?_ hrest
  simpa using Spells.single htag .nil

/-- The suite is spelled in front of what follows it. -/
theorem spells_suite (results : Results) (total : UInt64) (hrest : Spells nodes ('\n' :: rest)) :
    Spells (lineNodes "  " (suiteNode results total) ++ nodes)
      ('\n' :: (suiteLines results total).toList ++ rest) := by
  have hclosing : Spells (closing "  ") ('\n' :: "  ".toList) := spells_closing (by decide)
  have hcontent := spells_properties results.platform
    (spells_cases results.image results.groups.tagged hclosing)
  refine spells_line (by decide)
    (show Proper "testsuite" ["name", "tests", "failures", "errors", "time", "timestamp"] by
      decide) ?_ hrest
  simpa using hcontent

/-- The document spells the tree of the results. -/
theorem spells_document (results : Results) (total : UInt64) :
    ∃ written, (document results total).toList = declaration ++ written ∧
      Spells (lineNodes "" (rootNode results total) ++ closing "") written := by
  refine ⟨_, document_eq_line results total, ?_⟩
  have hclosing : Spells (closing "") ['\n'] := spells_closing (by decide)
  have hcontent := spells_suite results total hclosing
  have hinner : Spells (lineNodes "  " (suiteNode results total) ++ closing "")
      ("\n" ++ suiteLines results total).toList := by
    simpa using hcontent
  have hproper : Proper "testsuites" ["name", "tests", "failures", "errors"] := by decide
  simpa [rootNode] using spells_line (by decide) hproper hinner hclosing

/-- The document is read as the tree of the results. -/
theorem root?_document (results : Results) (total : UInt64) :
    root? (document results total) = some (rootNode results total) := by
  obtain ⟨written, htext, hspells⟩ := spells_document results total
  rw [root?_of_spells htext hspells]
  rfl

end ContainerCert.Report.Junit
