import JsonShape.Inference.Infer

/-!
# Schema documents

A document is a schema for a whole text, with a title and a description. The schema of an object or
array becomes the document itself; that of any other value is put under the required property
`value`.
-/

namespace JsonShape

namespace Inferrer

/-- What every document begins with. -/
def heading (config : InferenceConfig) : Facets where
  schemaUri := some config.schemaUri
  title := some "Generated Schema"
  description := some "Generated from JSON data"

/-- The document that a schema makes. -/
def documentOf (config : InferenceConfig) (root : Schema) : Schema :=
  let facets := (root.facets?).getD {}
  let parts := (root.parts?).getD {}
  if root.isType .object || parts.properties.isSome then
    .object
      { heading config with type := some (.single .object), required := facets.required }
      { properties := parts.properties }
  else if root.isType .array || parts.items.isSome then
    .object
      { heading config with
        type := some (.single .array), minItems := facets.minItems, maxItems := facets.maxItems }
      { items := parts.items }
  else if facets.type.isSome then
    .object
      { heading config with
        title := some "Generated Schema (Primitive Root)"
        description := some "Input was a primitive value, wrapped in an object."
        type := some (.single .object)
        required := some ["value"] }
      { properties := some [("value", root)] }
  else .object { heading config with type := some (.single .object) } {}

/-- The document for a value. -/
def document (inferrer : Inferrer) (value : Json) : Schema :=
  documentOf inferrer.config (inferrer.infer value).asObject

end Inferrer

end JsonShape
