import ContainerCert.Json.Basic

/-!
# Schemas of JSON documents

A schema says which JSON values a kind of document may be: the kinds of its fields, which of them
must be there, and whether others may stand beside them. Structures that are used in several
places are defined once, by name.
-/

namespace ContainerCert.Json

/-- The kind of a field's value. -/
inductive Shape where
  | text
  | boolean
  /-- A whole number of 64 bits that is not negative. -/
  | unsigned
  | textOrNull
  | booleanOrNull
  | list (item : Shape)
  /-- A structure that is defined by name. -/
  | named (name : String)
  deriving DecidableEq, Repr

/-- A field of a structure. -/
structure Property where
  name : String
  description : Option String
  shape : Shape
  required : Bool
  deriving DecidableEq, Repr

/-- A field that must be there. -/
def Property.must (name : String) (shape : Shape) : Property :=
  ⟨name, none, shape, true⟩

/-- A field that may be missing. -/
def Property.may (name : String) (shape : Shape) : Property :=
  ⟨name, none, shape, false⟩

/-- The same field with a description. -/
def Property.described (property : Property) (description : String) : Property :=
  { property with description := some description }

/-- A structure; a closed one has no other fields. -/
structure Layout where
  properties : List Property
  closed : Bool
  deriving DecidableEq, Repr

/-- What a document may be at its root. -/
inductive Root where
  | oneOf (names : List String)
  | object (layout : Layout)
  deriving DecidableEq, Repr

/-- The schema of a kind of document. -/
structure Schema where
  title : String
  description : Option String
  root : Root
  definitions : List (String × Layout)
  deriving DecidableEq, Repr

/-- A description as a field, if there is one. -/
def describe (description : Option String) : List (String × Json) :=
  (description.map fun text => ("description", Json.text text)).toList

/-- A type as a field. -/
def typed (name : String) : String × Json :=
  ("type", .text name)

/-- A type that also allows null. -/
def typedOrNull (name : String) : String × Json :=
  ("type", .array [.text name, .text "null"])

/-- The fields that say what a shape is. -/
def Shape.fields : Shape → List (String × Json)
  | .text => [typed "string"]
  | .boolean => [typed "boolean"]
  | .unsigned => [typed "integer", ("format", .text "uint64"), ("minimum", .decimal 0 1)]
  | .textOrNull => [typedOrNull "string"]
  | .booleanOrNull => [typedOrNull "boolean"]
  | .list item => [typed "array", ("items", .object item.fields)]
  | .named name => [("$ref", .text ("#/definitions/" ++ name))]

/-- A field of a structure as JSON. -/
def Property.toJson (property : Property) : Json :=
  .object (describe property.description ++ property.shape.fields)

/-- The fields that say what a structure is. -/
def Layout.fields (layout : Layout) : List (String × Json) :=
  let required := (layout.properties.filter (·.required)).map fun p => Json.text p.name
  [typed "object"] ++
    (if required.isEmpty then [] else [("required", .array required)]) ++
    [("properties", .object (layout.properties.map fun p => (p.name, p.toJson)))] ++
    (if layout.closed then [("additionalProperties", .boolean false)] else [])

/-- The fields that say what a document is. -/
def Root.fields : Root → List (String × Json)
  | .oneOf names => [typed "string", ("enum", .array (names.map .text))]
  | .object layout => layout.fields

/-- The schema as JSON. -/
def Schema.toJson (schema : Schema) : Json :=
  .object ([("$schema", .text "http://json-schema.org/draft-07/schema#"),
      ("title", .text schema.title)] ++ describe schema.description ++ schema.root.fields ++
    (if schema.definitions.isEmpty then [] else
      [("definitions", .object (schema.definitions.map fun (name, layout) =>
        (name, .object layout.fields)))]))

end ContainerCert.Json
