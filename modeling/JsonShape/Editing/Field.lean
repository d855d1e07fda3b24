import JsonShape.Record.Shape
import JsonShape.Schema.Writing

/-!
# Fields to be added

A field is what a user enters about a property: its name, its type and what else is known. From it
comes the schema of the property (`PropertyField.schema`).
-/

namespace JsonShape

/-- A property as it is entered. -/
structure PropertyField where
  name : String
  type : TypeName
  description : Option String := none
  required : Bool := false
  /-- Keywords for the property. -/
  validation : Option Schema := none
  additionalProperties : Option Bool := none

namespace PropertyField

/-- The shape of a field that is read. -/
def shape : RecordShape where
  title := "struct NewField"
  fields :=
    [{ name := "name", form := .text, required := true },
     { name := "type", form := .variant (TypeName.all.map TypeName.name), required := true },
     { name := "description", form := .optional .text },
     { name := "required", form := .flag },
     { name := "validation", form := .optional .schema },
     { name := "additionalProperties", form := .optional .flag }]

/-- The field with the given entries; the required ones are taken to be there. -/
def ofFields (given : Members Json) : PropertyField where
  name := (given.text? "name").getD ""
  type := ((given.text? "type").bind TypeName.ofName?).getD .null
  description := given.text? "description"
  required := (given.flag? "required").getD false
  validation := (given.lookup "validation").bind Schema.ofJson?
  additionalProperties := given.flag? "additionalProperties"

/-- The field as a JSON value. -/
def toJson (field : PropertyField) : Json :=
  .object
    ([("name", .string field.name), ("type", .string field.type.name)]
      ++ (field.description.map fun text => ("description", Json.string text)).toList
      ++ [("required", .bool field.required)]
      ++ (field.validation.map fun schema => ("validation", schema.written)).toList
      ++ (field.additionalProperties.map fun flag =>
        ("additionalProperties", Json.bool flag)).toList)

/-- The schema of the property. Keywords that are given win over the type and the description; a
boolean schema stands for itself. -/
def schema (field : PropertyField) : Schema :=
  match field.validation.getD .empty with
  | .boolean accepts => .boolean accepts
  | .object facets parts =>
    .object
      { facets with
        type := facets.type.or (some (.single field.type))
        description := facets.description.or field.description }
      { parts with
        additionalProperties :=
          if field.additionalProperties = some false then some (.boolean false)
          else parts.additionalProperties }

end PropertyField

end JsonShape
