import ContainerCert.Json.Schema
import ContainerCert.Proofs.JsonReading

/-!
# What a schema asks of a value

A schema is itself a JSON object, and it asks of a value what its keywords say: the type, a smallest
number, the fields that must be there, and what the fields and items have to be in turn. A schema
that refers to a definition asks what the definition asks and nothing else. The other fields of a
schema, such as its title, its descriptions and the formats of its numbers, ask nothing.
-/

namespace ContainerCert.Json

open Data (Tree)

/-- The types that a value is of. A number of double precision is not taken for an integer. -/
def typeNames : Tree → List String
  | .null => ["null"]
  | .boolean _ => ["boolean"]
  | .natural _ | .negative _ => ["integer", "number"]
  | .floating _ => ["number"]
  | .text _ => ["string"]
  | .sequence _ => ["array"]
  | .map _ none => ["object"]
  | _ => []

/-- The types that a schema names: one, or several of which one has to be the value's. -/
def namedTypes : Json → List String
  | .text name => [name]
  | .array names => names.filterMap fun name =>
    match name with
    | .text name => some name
    | _ => none
  | _ => []

/-- Whether a number is not below a bound; a value that is no number has nothing to do with it.
Bounds are not negative, so no negative number reaches one. -/
def IsAtLeast : Tree → Json → Prop
  | .natural value, .natural bound => bound ≤ value
  | .natural value, .decimal mantissa places => mantissa ≤ value * Nat.pow 10 places
  | .natural _, _ | .negative _, _ | .floating _, _ => False
  | _, _ => True

/-- The fields that a schema describes, with the schemas of their values. -/
def propertiesOf (schema : List (String × Json)) : List (String × Json) :=
  match schema.lookup "properties" with
  | some (.object properties) => properties
  | _ => []

/-- What a schema asks of a value, apart from what it asks of the parts of the value. -/
structure Meets (schema : List (String × Json)) (value : Tree) : Prop where
  type : ∀ types, schema.lookup "type" = some types →
    ∃ name ∈ namedTypes types, name ∈ typeNames value
  enumeration : ∀ options, schema.lookup "enum" = some (.array options) →
    ∃ option ∈ options, value = option.tree
  minimum : ∀ bound, schema.lookup "minimum" = some bound → IsAtLeast value bound
  required : ∀ names, schema.lookup "required" = some (.array names) →
    ∀ entries stray, value = .map entries stray →
      ∀ name, .text name ∈ names → ∃ part, (name, part) ∈ entries
  closed : schema.lookup "additionalProperties" = some (.boolean false) →
    ∀ entries stray, value = .map entries stray →
      ∀ entry ∈ entries, ∃ property, (propertiesOf schema).lookup entry.1 = some property

/-- A value is what a schema asks for, where names stand for the given definitions. -/
inductive Satisfies (definitions : List (String × Json)) : Json → Tree → Prop where
  | reference {schema : List (String × Json)} {name : String} {definition : Json} {value : Tree}
      (hreference : schema.lookup "$ref" = some (.text ("#/definitions/" ++ name)))
      (hdefinition : definitions.lookup name = some definition)
      (h : Satisfies definitions definition value) :
      Satisfies definitions (.object schema) value
  | keywords {schema : List (String × Json)} {value : Tree}
      (hreference : schema.lookup "$ref" = none) (hmeets : Meets schema value)
      (hproperties : ∀ entries stray, value = .map entries stray →
        ∀ entry ∈ entries, ∀ property, (propertiesOf schema).lookup entry.1 = some property →
          Satisfies definitions property entry.2)
      (hitems : ∀ items, value = .sequence items →
        ∀ shape, schema.lookup "items" = some shape →
          ∀ item ∈ items, Satisfies definitions shape item) :
      Satisfies definitions (.object schema) value

/-- The definitions of a schema. -/
def definitionsOf : Json → List (String × Json)
  | .object fields =>
    match fields.lookup "definitions" with
    | some (.object definitions) => definitions
    | _ => []
  | _ => []

/-- A text is a document that the schema allows. -/
def Schema.Admits (schema : Schema) (text : String) : Prop :=
  ∃ value, Document.ofText text = ⟨value, true⟩ ∧
    Satisfies (definitionsOf schema.toJson) schema.toJson value

/-- The fields of a schema that ask something. -/
def keywordNames : List String :=
  ["$ref", "type", "enum", "minimum", "required", "properties", "additionalProperties", "items"]

variable {definitions schema other : List (String × Json)} {value : Tree}

theorem Meets.congr
    (hagree : ∀ keyword ∈ keywordNames, other.lookup keyword = schema.lookup keyword)
    (h : Meets schema value) : Meets other value := by
  have hproperties : propertiesOf other = propertiesOf schema := by
    rw [propertiesOf, propertiesOf, hagree "properties" (by decide)]
  refine ⟨?_, ?_, ?_, ?_, ?_⟩
  · rw [hagree "type" (by decide)]
    exact h.type
  · rw [hagree "enum" (by decide)]
    exact h.enumeration
  · rw [hagree "minimum" (by decide)]
    exact h.minimum
  · rw [hagree "required" (by decide)]
    exact h.required
  · rw [hagree "additionalProperties" (by decide), hproperties]
    exact h.closed

/-- Schemas that agree on the keywords ask the same. -/
theorem Satisfies.congr
    (hagree : ∀ keyword ∈ keywordNames, other.lookup keyword = schema.lookup keyword)
    (h : Satisfies definitions (.object schema) value) :
    Satisfies definitions (.object other) value := by
  have hreference := hagree "$ref" (by decide)
  cases h with
  | reference hnamed hdefinition h =>
    exact .reference (hreference.trans hnamed) hdefinition h
  | keywords hnone hmeets hproperties hitems =>
    refine .keywords (hreference.trans hnone) (hmeets.congr hagree) ?_ ?_
    · rw [propertiesOf, hagree "properties" (by decide)]
      exact hproperties
    · rw [hagree "items" (by decide)]
      exact hitems

/-- Fields that ask nothing may stand around a schema. -/
theorem Satisfies.annotated (h : Satisfies definitions (.object schema) value)
    {before after : List (String × Json)} (hbefore : ∀ field ∈ before, field.1 ∉ keywordNames)
    (hafter : ∀ field ∈ after, field.1 ∉ keywordNames) :
    Satisfies definitions (.object (before ++ schema ++ after)) value := by
  have hpassed {fields : List (String × Json)} (hfields : ∀ field ∈ fields, field.1 ∉ keywordNames)
      {keyword : String} (hkeyword : keyword ∈ keywordNames) : fields.lookup keyword = none := by
    refine List.lookup_eq_none_iff.mpr fun field hfield => bne_iff_ne.mpr ?_
    rintro rfl
    exact hfields field hfield hkeyword
  refine h.congr fun keyword hkeyword => ?_
  rw [List.lookup_append, List.lookup_append, hpassed hbefore hkeyword, hpassed hafter hkeyword,
    Option.none_or, Option.or_none]

/-- A description asks nothing. -/
theorem Satisfies.described (h : Satisfies definitions (.object schema) value)
    (description : Option String) :
    Satisfies definitions (.object (describe description ++ schema)) value := by
  have hdescription : ∀ field ∈ describe description, field.1 ∉ keywordNames := by
    cases description <;> simp [describe, keywordNames]
  have hnothing : ∀ field ∈ ([] : List (String × Json)), field.1 ∉ keywordNames := by simp
  simpa only [List.append_nil] using h.annotated hdescription hnothing

/-- A schema that names types asks for one of them. -/
theorem satisfies_typed {types : Json} {name : String} (hnamed : name ∈ namedTypes types)
    (hvalue : name ∈ typeNames value) : Satisfies definitions (.object [("type", types)]) value := by
  refine .keywords rfl ⟨?_, nofun, nofun, nofun, nofun⟩ (fun _ _ _ _ _ _ => nofun)
    fun _ _ => nofun
  rintro _ ⟨⟩
  exact ⟨name, hnamed, hvalue⟩

/-- Every natural number is one of those that are not negative. -/
theorem satisfies_unsigned (value : Nat) :
    Satisfies definitions (.object Shape.unsigned.fields) (.natural value) := by
  refine .keywords rfl ⟨?_, nofun, ?_, nofun, nofun⟩ nofun nofun
  · rintro _ ⟨⟩
    exact ⟨"integer", by decide, by simp [typeNames]⟩
  · rintro _ ⟨⟩
    exact Nat.zero_le _

/-- A list asks of every item what the shape of items asks. -/
theorem satisfies_list {shape : Shape} {items : List Tree}
    (h : ∀ item ∈ items, Satisfies definitions (.object shape.fields) item) :
    Satisfies definitions (.object (Shape.list shape).fields) (.sequence items) := by
  refine .keywords rfl ⟨?_, nofun, nofun, nofun, nofun⟩ nofun ?_
  · rintro _ ⟨⟩
    exact ⟨"array", by decide, by simp [typeNames]⟩
  · rintro _ ⟨⟩ _ ⟨⟩
    exact h

/-- A name asks what the layout that is defined under it asks. -/
theorem satisfies_named {name : String} {definition : Json}
    (hdefinition : definitions.lookup name = some definition)
    (h : Satisfies definitions definition value) :
    Satisfies definitions (.object (Shape.named name).fields) value :=
  .reference rfl hdefinition h

/-- What a layout says of each keyword. -/
theorem Layout.lookup_fields (layout : Layout) :
    layout.fields.lookup "$ref" = none ∧
    layout.fields.lookup "type" = some (.text "object") ∧
    layout.fields.lookup "enum" = none ∧ layout.fields.lookup "minimum" = none ∧
    (∀ names, layout.fields.lookup "required" = some (.array names) →
      names = (layout.properties.filter (·.required)).map fun property => .text property.name) ∧
    propertiesOf layout.fields = layout.properties.map (fun property =>
      (property.name, property.toJson)) ∧
    layout.fields.lookup "items" = none := by
  unfold Layout.fields propertiesOf
  cases layout.closed <;>
    cases ((layout.properties.filter (·.required)).map fun p => Json.text p.name) <;>
      simp [typed, List.lookup_cons]

/-- The schema of a field is found under the name of the field. -/
theorem lookup_properties {properties : List Property} (hnames : (properties.map (·.name)).Nodup)
    {property : Property} (hmem : property ∈ properties) :
    (properties.map fun property => (property.name, property.toJson)).lookup property.name =
      some property.toJson := by
  induction properties with
  | nil => cases hmem
  | cons first properties ih =>
    obtain ⟨hfirst, hnames⟩ := List.nodup_cons.mp hnames
    rcases List.mem_cons.mp hmem with rfl | hmem
    · simp
    · have hne : property.name ≠ first.name := fun heq =>
        hfirst (List.mem_map.mpr ⟨property, hmem, heq⟩)
      rw [List.map_cons, List.lookup_cons, beq_eq_false_iff_ne.mpr hne]
      exact ih hnames hmem

/-- A structure is what a layout asks for when each of its fields is one of those described, with a
value as described, and none of those that have to be there is missing. -/
theorem satisfies_layout {layout : Layout} {entries : List (String × Tree)}
    (hnames : (layout.properties.map (·.name)).Nodup)
    (hrequired : ∀ property ∈ layout.properties, property.required = true →
      ∃ part, (property.name, part) ∈ entries)
    (hentries : ∀ entry ∈ entries, ∃ property ∈ layout.properties, property.name = entry.1 ∧
      Satisfies definitions property.toJson entry.2) :
    Satisfies definitions (.object layout.fields) (.map entries none) := by
  obtain ⟨href, htype, henum, hminimum, hnamed, hproperties, hitems⟩ := layout.lookup_fields
  have hfound : ∀ entry ∈ entries, ∃ property : Property,
      (propertiesOf layout.fields).lookup entry.1 = some property.toJson ∧
        Satisfies definitions property.toJson entry.2 := by
    intro entry hentry
    obtain ⟨property, hmem, hname, h⟩ := hentries entry hentry
    exact ⟨property, by rw [hproperties, ← hname, lookup_properties hnames hmem], h⟩
  refine .keywords href ⟨?_, by simp [henum], by simp [hminimum], ?_, ?_⟩ ?_ (by simp [hitems])
  · rw [htype]
    rintro _ ⟨⟩
    exact ⟨"object", by decide, by simp [typeNames]⟩
  · rintro names hlookup _ _ ⟨⟩ name hname
    rw [hnamed names hlookup] at hname
    obtain ⟨property, hproperty, hname⟩ := List.mem_map.mp hname
    obtain ⟨hmem, hmust⟩ := List.mem_filter.mp hproperty
    obtain rfl : property.name = name := Json.text.inj hname
    exact hrequired property hmem hmust
  · rintro - _ _ ⟨⟩ entry hentry
    obtain ⟨property, hlookup, -⟩ := hfound entry hentry
    exact ⟨property.toJson, hlookup⟩
  · rintro _ _ ⟨⟩ entry hentry schema hschema
    obtain ⟨property, hlookup, h⟩ := hfound entry hentry
    rw [hlookup] at hschema
    exact Option.some.inj hschema ▸ h

end ContainerCert.Json
