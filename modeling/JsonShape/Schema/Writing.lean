import JsonShape.Schema.Basic

/-!
# Writing a schema as JSON

The fields are written in the order of `Keyword.all`, then the other keywords in their own order.
After an edit a keyword can stand both in its field and among the others. `Schema.written` shows
both, while `Schema.toJson` is a value without repeated names, in which the later one counts.
-/

namespace JsonShape

/-- The written value of a keyword's field. -/
def Facets.written? (facets : Facets) (parts : Parts Json) : Keyword → Option Json
  | .text keyword => (facets.text? keyword).map .string
  | .number keyword => (facets.number? keyword).map .number
  | .map keyword => (parts.map? keyword).map .object
  | .list keyword => (parts.list? keyword).map .array
  | .single keyword => parts.single? keyword
  | .type => facets.type.map TypeSpec.toJson
  | .required => facets.required.map fun names => .array (names.map .string)
  | .uniqueItems => facets.uniqueItems.map .bool
  | .choices => facets.choices.map .array
  | .items => parts.items.map fun
    | .tuple schemas => .array schemas
    | .single schema => schema

/-- The members of an object schema whose parts are written already. -/
def Facets.members (facets : Facets) (parts : Parts Json) : Members Json :=
  Keyword.all.filterMap (fun keyword => (facets.written? parts keyword).map (keyword.name, ·))
    ++ facets.extra

namespace Schema

/-- The members of a schema as they are written, repeated names included. -/
def written : Schema → Json := fold .bool fun facets parts => .object (facets.members parts)

/-- The schema as a JSON value. -/
def toJson (schema : Schema) : Json := schema.written.collapse

end Schema

end JsonShape
