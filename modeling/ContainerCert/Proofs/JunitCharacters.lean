import ContainerCert.Proofs.EngineRuns
import ContainerCert.Proofs.JunitDocuments
import ContainerCert.Proofs.SumsOfTimes

/-!
# The characters of JUnit documents

Escaping deals with the characters that XML gives a meaning. There are others that may not stand in
a document at all, escaped or not, and they are written like any other: where results have a
document, it is well formed exactly when all texts that stand in it hold characters of XML alone.
-/

namespace ContainerCert.Report.Junit

open Xml (IsChar WellFormed entities declaration)

/-- All characters of a text may stand in a document. -/
def IsText (text : String) : Prop :=
  ∀ c ∈ text.toList, IsChar c

instance (text : String) : Decidable (IsText text) :=
  List.decidableBAll _ text.toList

/-- All texts of a check that stand in its case hold characters of XML. -/
def HoldsText (outcome : Outcome) (entry : Entry) : Prop :=
  IsText entry.name ∧ IsText entry.description ∧
    (outcome ≠ .passed → IsText entry.reason ∧ IsText entry.help)

theorem isText_append {first second : String} :
    IsText (first ++ second) ↔ IsText first ∧ IsText second := by
  simp only [IsText, String.toList_append, List.forall_mem_append]

theorem isText_join {texts : List String} :
    IsText (String.join texts) ↔ ∀ text ∈ texts, IsText text := by
  simp only [IsText, String.toList_join, List.mem_flatMap, forall_exists_index, and_imp]
  exact ⟨fun h text htext c hc => h c text htext hc, fun h c text htext hc => h text htext c hc⟩

/-- Escaping neither adds nor removes characters that may not stand in a document. -/
theorem isText_escape {text : String} : IsText (escape text) ↔ IsText text := by
  have hentities : (entities.all fun entity =>
      decide (IsChar entity.1) && entity.2.toList.all fun c => decide (IsChar c)) = true := by
    decide
  have hchar (c : Char) : (∀ d ∈ escapeChar c, IsChar d) ↔ IsChar c := by
    obtain ⟨name, hentity, hescape⟩ | ⟨-, hescape⟩ := escapeChar_cases c
    · have hlegal := List.all_eq_true.mp hentities _ hentity
      rw [Bool.and_eq_true, decide_eq_true_eq, List.all_eq_true] at hlegal
      obtain ⟨hc, hname⟩ := hlegal
      rw [hescape]
      refine iff_of_true (fun d hd => ?_) hc
      simp only [List.cons_append, List.mem_cons, List.mem_append, List.not_mem_nil, or_false] at hd
      rcases hd with rfl | hd | rfl
      · decide
      · exact of_decide_eq_true (hname d hd)
      · decide
    · rw [hescape, List.forall_mem_singleton]
  simp only [IsText, escape, String.toList_ofList, List.mem_flatMap, forall_exists_index, and_imp]
  exact ⟨fun h c hc => (hchar c).mp fun d hd => h d c hc hd,
    fun h d c hc => (hchar c).mpr (h c hc) d⟩

theorem isChar_of_isDigit {c : Char} (h : c.isDigit = true) : IsChar c := by
  have hrange : 48 ≤ c.toNat ∧ c.toNat ≤ 57 := by
    simpa [Char.isDigit, UInt32.le_iff_toNat_le] using h
  refine .inr (.inr (.inr ?_))
  omega

theorem isText_toString (n : Nat) : IsText (toString n) :=
  fun _ hc => isChar_of_isDigit (isDigit_of_mem_toString hc)

theorem isText_seconds (milliseconds : UInt64) : IsText (seconds milliseconds) := by
  rw [seconds, isText_append, isText_append]
  exact ⟨⟨isText_toString _, by decide⟩,
    fun _ hc => isChar_of_isDigit (isDigit_of_mem_threeDigits hc)⟩

theorem isText_assigned {name value : String} (hname : IsText name) :
    IsText (assigned name value) ↔ IsText value := by
  have hmarks : IsText " " ∧ IsText "=\"" ∧ IsText "\"" := by decide
  simp only [assigned, isText_append, hmarks, hname, true_and, and_true]

theorem isText_counts (groups : Groups) : IsText (counts groups) := by
  have hnames : IsText "tests" ∧ IsText "failures" ∧ IsText "errors" := by decide
  simp only [counts, isText_append, isText_assigned, hnames, isText_toString, and_self]

theorem isText_problem {element : String} (helement : IsText element) (entry : Entry) :
    IsText (problem element entry) ↔ IsText entry.reason ∧ IsText entry.help := by
  have hmarks : IsText "      <" ∧ IsText "message" ∧ IsText "type" ∧ IsText "" ∧ IsText ">" ∧
      IsText "</" ∧ IsText ">\n" := by decide
  unfold problem
  simp only [isText_append, isText_assigned, isText_escape, hmarks, helement, true_and, and_true]

theorem isText_verdict (outcome : Outcome) (entry : Entry) :
    IsText (verdict outcome entry) ↔
      (outcome ≠ .passed → IsText entry.reason ∧ IsText entry.help) := by
  cases outcome with
  | passed => exact iff_of_true (show IsText "" by decide) fun h => absurd rfl h
  | failed => simpa [verdict] using isText_problem (by decide) entry
  | errored => simpa [verdict] using isText_problem (by decide) entry

theorem isText_testcase (image : String) (outcome : Outcome) (entry : Entry) :
    IsText (testcase image outcome entry) ↔ IsText image ∧ HoldsText outcome entry := by
  have hmarks : IsText "    <testcase" ∧ IsText "classname" ∧ IsText "name" ∧ IsText "time" ∧
      IsText ">\n" ∧ IsText "      <system-out>" ∧ IsText "</system-out>\n" ∧
      IsText "    </testcase>\n" := by decide
  unfold testcase
  simp only [isText_append, isText_assigned, isText_escape, isText_seconds, isText_verdict, hmarks,
    HoldsText, true_and, and_true]
  tauto

/-- The characters of a document are those of XML exactly where the texts in it have no others. -/
theorem isText_document (results : Results) (total : UInt64) :
    IsText (document results total) ↔
      IsText results.image ∧ IsText results.testedOn ∧ IsText results.platform ∧
        ∀ tagged ∈ results.groups.tagged, HoldsText tagged.1 tagged.2 := by
  have hmarks : IsText "<?xml version=\"1.0\" encoding=\"UTF-8\"?>\n" ∧ IsText "<testsuites" ∧
      IsText ">\n" ∧ IsText "  <testsuite" ∧ IsText "    <properties><property" ∧
      IsText "/></properties>\n" ∧ IsText "  </testsuite>\n" ∧ IsText "</testsuites>\n" := by decide
  have hnames : IsText "name" ∧ IsText "time" ∧ IsText "timestamp" ∧ IsText "value" ∧
      IsText "preflight" ∧ IsText "platform" := by decide
  unfold document
  simp only [isText_append, isText_assigned, isText_escape, isText_seconds, isText_counts, hmarks,
    hnames, isText_join, List.forall_mem_map, isText_testcase, true_and, and_true]
  constructor
  · rintro ⟨⟨⟨himage, htestedOn⟩, hplatform⟩, hcases⟩
    exact ⟨himage, htestedOn, hplatform, fun tagged hmem => (hcases tagged hmem).2⟩
  · rintro ⟨himage, htestedOn, hplatform, hcases⟩
    exact ⟨⟨⟨himage, htestedOn⟩, hplatform⟩, fun tagged hmem => ⟨himage, hcases tagged hmem⟩⟩

theorem wellFormed_document_iff (results : Results) (total : UInt64) :
    WellFormed (document results total) ↔
      IsText results.image ∧ IsText results.testedOn ∧ IsText results.platform ∧
        ∀ tagged ∈ results.groups.tagged, HoldsText tagged.1 tagged.2 := by
  obtain ⟨written, htext, hspells⟩ := spells_document results total
  rw [← isText_document results total]
  exact ⟨And.left, fun hchars => ⟨hchars, _, written, rootNode results total, htext, hspells, rfl⟩⟩

theorem forall_mem_tagged {holds : Outcome → Entry → Prop} {groups : Groups} :
    (∀ tagged ∈ groups.tagged, holds tagged.1 tagged.2) ↔
      (∀ entry ∈ groups.passed, holds .passed entry) ∧
        (∀ entry ∈ groups.failed, holds .failed entry) ∧
        ∀ entry ∈ groups.errors, holds .errored entry := by
  simp only [Groups.tagged, List.forall_mem_append, List.forall_mem_map, and_assoc]

/-- Results have a well-formed document exactly where the times of their checks can be added up and
the texts in it hold characters of XML alone: its tags balance, its values are quoted and its
references are whole whatever they hold. -/
theorem wellFormed_render_iff (results : Results) :
    (∃ text, render results = some text ∧ WellFormed text) ↔ results.groups.Addable ∧
      IsText results.image ∧ IsText results.testedOn ∧ IsText results.platform ∧
        (∀ entry ∈ results.groups.passed, HoldsText .passed entry) ∧
        (∀ entry ∈ results.groups.failed, HoldsText .failed entry) ∧
        ∀ entry ∈ results.groups.errors, HoldsText .errored entry := by
  rw [← forall_mem_tagged, ← exists_render_iff]
  constructor
  · rintro ⟨text, hrender, hwell⟩
    refine ⟨⟨text, hrender⟩, ?_⟩
    obtain ⟨total, -, rfl⟩ := render_eq_some_iff.mp hrender
    exact (wellFormed_document_iff results total).mp hwell
  · rintro ⟨⟨text, hrender⟩, htexts⟩
    refine ⟨text, hrender, ?_⟩
    obtain ⟨total, -, rfl⟩ := render_eq_some_iff.mp hrender
    exact (wellFormed_document_iff results total).mpr htexts

/-- A control character in the name of the platform is in the document of the results that the
engine gives. -/
theorem control_character_in_platform :
    ∃ results text, Check.engine ⟨pure "", pure 0⟩ "quay.io/example/app:1"
        { Check.EngineSettings.initial with platform := "\x01" } Check.builtin
        ⟨pure false, some ⟨"artifacts", fun _ _ => pure "artifacts/image-reference.json"⟩⟩ () =
          (.ok results, ()) ∧ render results = some text ∧ ¬ WellFormed text := by
  have hparse : Image.Reference.parse "quay.io/example/app:1" =
      .ok ⟨"quay.io", "example/app", some "1", none⟩ := by decide +kernel
  refine ⟨_, _, Check.engine_unhindered hparse _ _ _,
    render_eq_some_iff.mpr ⟨0, totalTime?_eq_some_iff.mpr (by decide), rfl⟩, ?_⟩
  intro hwell
  have hplatform := ((isText_document _ _).mp hwell.1).2.2.1
  exact absurd hplatform (by decide)

end ContainerCert.Report.Junit
