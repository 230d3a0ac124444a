import ContainerCert.Proofs.DocumentRoundTrips
import ContainerCert.Proofs.SchemaKeywords
import ContainerCert.Schemas

/-!
# Documents and their schemas

Whatever is written as a configuration file, as results or as a document for users is allowed by
the schema that is published for its kind, in both written forms, and so is what the formatter for
users writes. Each kind of structure is put together from its fields: a field that is written is
described by the layout, its value has the shape that stands there, and the fields that may be left
out are those that need not be there.
-/

namespace ContainerCert

namespace Json

open Data (Tree)

variable {definitions : List (String × Json)}

/-- What fields are read as, one by one. -/
theorem treeFields_eq_map (fields : List (String × Json)) :
    treeFields fields = fields.map fun field => (field.1, field.2.tree) := by
  induction fields with
  | nil => rfl
  | cons field fields ih => rw [treeFields, ih, List.map_cons]

theorem satisfies_text (value : String) :
    Satisfies definitions (.object Shape.text.fields) (.text value) :=
  satisfies_typed List.mem_cons_self List.mem_cons_self

theorem satisfies_boolean (value : Bool) :
    Satisfies definitions (.object Shape.boolean.fields) (.boolean value) :=
  satisfies_typed List.mem_cons_self List.mem_cons_self

theorem satisfies_textOrNull (value : String) :
    Satisfies definitions (.object Shape.textOrNull.fields) (.text value) :=
  satisfies_typed List.mem_cons_self List.mem_cons_self

theorem satisfies_booleanOrNull (value : Bool) :
    Satisfies definitions (.object Shape.booleanOrNull.fields) (.boolean value) :=
  satisfies_typed List.mem_cons_self List.mem_cons_self

/-- A layout describes a field that is written, with the value it has. -/
def Describes (definitions : List (String × Json)) (layout : Layout) (field : String × Json) :
    Prop :=
  ∃ property, layout.properties.find? (·.name == field.1) = some property ∧
    Satisfies definitions (.object property.shape.fields) field.2.tree

/-- The names of the fields that have to be there. -/
def Layout.requiredNames (layout : Layout) : List String :=
  (layout.properties.filter (·.required)).map (·.name)

/-- An object is what a layout asks for when its fields are described and none that has to be there
is missing. -/
theorem satisfies_object {layout : Layout} {fields : List (String × Json)}
    (hnames : (layout.properties.map (·.name)).Nodup)
    (hrequired : layout.requiredNames ⊆ fields.map Prod.fst)
    (hfields : ∀ field ∈ fields, Describes definitions layout field) :
    Satisfies definitions (.object layout.fields) (Json.object fields).tree := by
  rw [tree, treeFields_eq_map]
  refine satisfies_layout hnames (fun property hproperty hmust => ?_) fun entry hentry => ?_
  · have hname : property.name ∈ layout.requiredNames :=
      List.mem_map_of_mem (List.mem_filter.mpr ⟨hproperty, hmust⟩)
    obtain ⟨field, hfield, hname⟩ := List.mem_map.mp (hrequired hname)
    exact ⟨field.2.tree, List.mem_map.mpr ⟨field, hfield, by rw [hname]⟩⟩
  · obtain ⟨field, hfield, rfl⟩ := List.mem_map.mp hentry
    obtain ⟨property, hfind, h⟩ := hfields field hfield
    exact ⟨property, List.mem_of_find?_eq_some hfind, by simpa using List.find?_some hfind,
      h.described property.description⟩

/-- A list is what is asked for when each of its items is. -/
theorem satisfies_array {shape : Shape} {items : List Json}
    (h : ∀ item ∈ items, Satisfies definitions (.object shape.fields) item.tree) :
    Satisfies definitions (.object (Shape.list shape).fields) (Json.array items).tree := by
  rw [tree, treeItems_eq_map]
  refine satisfies_list fun item hitem => ?_
  obtain ⟨written, hwritten, rfl⟩ := List.mem_map.mp hitem
  exact h written hwritten

/-- A text that is read as what the schema asks for at its root is allowed. -/
theorem Schema.Admits.of_root {schema : Schema} {value : Tree}
    (h : Satisfies (definitionsOf schema.toJson) (.object schema.root.fields) value) {text : String}
    (hread : Document.ofText text = ⟨value, true⟩) : schema.Admits text := by
  have hbefore : ∀ field ∈ [("$schema", Json.text "http://json-schema.org/draft-07/schema#"),
      ("title", Json.text schema.title)] ++ describe schema.description,
      field.1 ∉ keywordNames := by
    cases schema.description <;> simp [describe, keywordNames]
  have hafter : ∀ field ∈ (if schema.definitions.isEmpty then [] else
      [("definitions", Json.object (schema.definitions.map fun definition =>
        (definition.1, Json.object definition.2.fields)))]), field.1 ∉ keywordNames := by
    split <;> simp [keywordNames]
  exact ⟨value, hread, h.annotated hbefore hafter⟩

/-- One of the names that are listed is allowed. -/
theorem satisfies_oneOf {names : List String} {name : String} (hmem : name ∈ names) :
    Satisfies definitions (.object (Root.oneOf names).fields) (.text name) := by
  refine .keywords rfl ⟨?_, ?_, nofun, nofun, nofun⟩ nofun nofun
  · rintro _ ⟨⟩
    exact ⟨"string", List.mem_cons_self, List.mem_cons_self⟩
  · rintro _ ⟨⟩
    exact ⟨.text name, List.mem_map_of_mem hmem, rfl⟩

end Json

open Json (Describes Satisfies satisfies_object satisfies_array satisfies_named satisfies_text
  satisfies_boolean satisfies_textOrNull satisfies_booleanOrNull satisfies_unsigned)

variable {definitions : List (String × Json)}

namespace Report

/-- An entry has the layout of what one check gave; help and reason need not be there. -/
theorem Entry.satisfies_toJson (entry : Entry) :
    Satisfies definitions (.object Schemas.entry.fields) entry.toJson.tree := by
  have hrequired : Schemas.entry.requiredNames ⊆ ["name", "description", "elapsed_ms"] := by decide
  refine satisfies_object (by decide) (List.Subset.trans hrequired ?_) fun field hfield => ?_
  · simp
  have hcases : field = ("name", .text entry.name) ∨
      field = ("description", .text entry.description) ∨ field = ("help", .text entry.help) ∨
      field = ("elapsed_ms", .natural entry.elapsed.toNat) ∨
      field = ("reason", .text entry.reason) := by
    simp only [List.mem_append, List.mem_cons, List.not_mem_nil, or_false, List.mem_ite_nil_left]
      at hfield
    tauto
  rcases hcases with rfl | rfl | rfl | rfl | rfl
  · exact ⟨_, rfl, satisfies_text _⟩
  · exact ⟨_, rfl, satisfies_text _⟩
  · exact ⟨_, rfl, satisfies_text _⟩
  · exact ⟨_, rfl, satisfies_unsigned _⟩
  · exact ⟨_, rfl, satisfies_text _⟩

/-- A list of entries is described where entries are defined. -/
theorem Groups.satisfies_listJson
    (hentry : definitions.lookup "CheckResult" = some (.object Schemas.entry.fields))
    (entries : List Entry) :
    Satisfies definitions (.object (Json.Shape.list (.named "CheckResult")).fields)
      (listJson entries).tree := by
  refine satisfies_array fun item hitem => satisfies_named hentry ?_
  obtain ⟨entry, -, rfl⟩ := List.mem_map.mp hitem
  exact entry.satisfies_toJson

/-- The three lists are described where entries are defined, and hold no other field. -/
theorem Groups.describes_fields {layout : Json.Layout}
    (hentry : definitions.lookup "CheckResult" = some (.object Schemas.entry.fields))
    (hlayout : ∀ name ∈ ["passed", "failed", "errors"],
      layout.properties.find? (·.name == name) = some (Schemas.entries name))
    (groups : Groups) : ∀ field ∈ groups.fields, Describes definitions layout field := by
  intro field hfield
  obtain ⟨name, entries, hname, rfl⟩ : ∃ name entries, name ∈ ["passed", "failed", "errors"] ∧
      field = (name, listJson entries) := by
    simp only [fields, List.mem_cons, List.not_mem_nil, or_false] at hfield
    rcases hfield with rfl | rfl | rfl
    · exact ⟨"passed", groups.passed, by decide, rfl⟩
    · exact ⟨"failed", groups.failed, by decide, rfl⟩
    · exact ⟨"errors", groups.errors, by decide, rfl⟩
  exact ⟨_, hlayout name hname, satisfies_listJson hentry entries⟩

theorem Groups.satisfies_toJson
    (hentry : definitions.lookup "CheckResult" = some (.object Schemas.entry.fields))
    (groups : Groups) : Satisfies definitions (.object Schemas.groups.fields) groups.toJson.tree :=
  satisfies_object (by decide)
    (show Schemas.groups.requiredNames ⊆ ["passed", "failed", "errors"] by decide)
    (groups.describes_fields hentry (by decide))

theorem Library.satisfies_toJson (library : Library) :
    Satisfies definitions (.object Schemas.library.fields) library.toJson.tree := by
  refine satisfies_object (by decide)
    (show Schemas.library.requiredNames ⊆ ["name", "version"] by decide) ?_
  simp only [List.forall_mem_cons]
  exact ⟨⟨_, rfl, satisfies_text _⟩, ⟨_, rfl, satisfies_text _⟩, List.forall_mem_nil _⟩

/-- What is read of results is allowed by their schema. -/
theorem Results.admits_toJson {results : Results} {text : String}
    (hread : Json.Document.ofText text = ⟨results.toJson.tree, true⟩) :
    Schemas.results.Admits text := by
  refine .of_root (satisfies_object (by decide)
    (show Json.Layout.requiredNames _ ⊆ ["schema", "tested_image", "platform", "tested_on",
      "passed_overall", "passed", "failed", "errors"] by decide) ?_) hread
  simp only [List.forall_mem_append, List.forall_mem_cons]
  exact ⟨⟨⟨_, rfl, satisfies_text _⟩, ⟨_, rfl, satisfies_text _⟩, ⟨_, rfl, satisfies_text _⟩,
    ⟨_, rfl, satisfies_text _⟩, ⟨_, rfl, satisfies_boolean _⟩, List.forall_mem_nil _⟩,
    results.groups.describes_fields rfl (by decide)⟩

/-- What is read of a document for users is allowed by its schema. -/
theorem Response.admits_toJson {response : Response} {text : String}
    (hread : Json.Document.ofText text = ⟨response.toJson.tree, true⟩) :
    Schemas.response.Admits text := by
  refine .of_root (satisfies_object (by decide)
    (show Json.Layout.requiredNames _ ⊆ ["image", "passed", "platform", "tested_on", "test_library",
      "results"] by decide) ?_) hread
  simp only [Response.fields, List.forall_mem_cons]
  exact ⟨⟨_, rfl, satisfies_text _⟩, ⟨_, rfl, satisfies_boolean _⟩, ⟨_, rfl, satisfies_text _⟩,
    ⟨_, rfl, satisfies_text _⟩,
    ⟨_, rfl, satisfies_named rfl response.library.satisfies_toJson⟩,
    ⟨_, rfl, satisfies_named rfl (response.groups.satisfies_toJson rfl)⟩, List.forall_mem_nil _⟩

end Report

namespace Config.File

/-- What is read of a configuration file is allowed by its schema: the files it includes and the
keys it sets are all described there, and nothing need be there. -/
theorem admits_toJson {file : File} {text : String}
    (hread : Json.Document.ofText text = ⟨file.toJson.tree, true⟩) :
    Schemas.configFile.Admits text := by
  rw [toJson_eq] at hread
  refine .of_root (satisfies_object (by decide) (List.nil_subset _) ?_) hread
  rw [List.forall_mem_append]
  constructor
  · intro field hfield
    obtain ⟨-, rfl⟩ : _ ∧ field = ("includes", .array (file.includes.map .text)) := by
      simpa [includeFields] using hfield
    refine ⟨_, rfl, satisfies_array fun item hitem => ?_⟩
    obtain ⟨name, -, rfl⟩ := List.mem_map.mp hitem
    exact satisfies_text name
  · intro field hfield
    obtain ⟨key, -, hkey⟩ := List.mem_filterMap.mp hfield
    obtain ⟨value, hvalue, rfl⟩ := Option.map_eq_some_iff.mp hkey
    cases key
    all_goals
      obtain ⟨content, -, rfl⟩ := Option.map_eq_some_iff.mp hvalue
      first
        | exact ⟨_, rfl, satisfies_textOrNull content⟩
        | exact ⟨_, rfl, satisfies_booleanOrNull content⟩

end Config.File

/-- What is read of the name of an environment is allowed by its schema. -/
theorem Pyxis.Environment.admits_toJson {environment : Environment} {text : String}
    (hread : Json.Document.ofText text = ⟨environment.toJson.tree, true⟩) :
    Schemas.environment.Admits text :=
  .of_root (Json.satisfies_oneOf (by cases environment <;> decide)) hread

namespace Schemas

open Json (Document Form)
open Report (Format Response Results)

/-- Every configuration file, all results, every document for users and every name of an environment
are allowed by the schema of their kind, in each written form, and so is what the formatter for
users writes. -/
theorem documents_admitted :
    (∀ (form : Form) (file : Config.File), configFile.Admits (form.write file.toJson)) ∧
    (∀ (form : Form) (written : Results), results.Admits (form.write written.toJson)) ∧
    (∀ (form : Form) (written : Response), response.Admits (form.write written.toJson)) ∧
    (∀ (form : Form) (written : Pyxis.Environment),
      environment.Admits (form.write written.toJson)) ∧
    ∀ written : Results,
      ∃ text, Format.json.render written = some text ∧ response.Admits text :=
  ⟨fun form file => file.admits_toJson (form.ofText_write file.whole_toJson),
    fun form written => written.admits_toJson (form.ofText_write written.whole_toJson),
    fun form written => written.admits_toJson (form.ofText_write written.whole_toJson),
    fun form written => written.admits_toJson
      (form.ofText_write (show Json.Whole (.text written.name) from trivial)),
    fun written => ⟨_, rfl, Response.admits_toJson (Report.ofText_renderJson written)⟩⟩

/-- A key whose value is of another type is not allowed. -/
example : ¬ configFile.Admits (Form.compact.write (.object [("submit", .text "yes")])) := by
  rintro ⟨value, hread, h⟩
  rw [Form.ofText_write (by simp [Json.Whole, Json.WholeFields])] at hread
  obtain rfl : _ = value := congrArg Document.root hread
  cases h with
  | reference hreference => cases hreference
  | keywords _ _ hproperties _ =>
    cases hproperties _ _ rfl _ List.mem_cons_self _ rfl with
    | reference hreference => cases hreference
    | keywords _ hmeets _ _ =>
      obtain ⟨name, hnamed, hvalue⟩ := hmeets.type _ rfl
      obtain rfl : name = "string" := List.mem_singleton.mp hvalue
      exact absurd hnamed (by decide)

end Schemas

end ContainerCert
