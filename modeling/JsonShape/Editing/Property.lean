import JsonShape.Schema.Basic

/-!
# Editing the properties of a schema

An object schema has named properties and patterns for the names of others. Each operation works on
one of the two maps and gives a new schema (`Schema.insertProperty`, `Schema.removeProperty`,
`Schema.renameProperty`, `Schema.setRequired` and `Schema.toggleProperty`); boolean schemas stay as
they are. The list of required names is edited along with either map.
-/

namespace JsonShape

/-- The two maps of properties. -/
inductive PropertyKind
  | named | pattern
deriving DecidableEq, Repr

namespace PropertyKind

/-- The keyword that holds the map. -/
def keyword : PropertyKind → MapKeyword
  | named => .properties
  | pattern => .patternProperties

/-- The other map. -/
def other : PropertyKind → PropertyKind
  | named => pattern
  | pattern => named

end PropertyKind

/-- A property as it is listed. -/
structure Property where
  name : String
  schema : Schema
  required : Bool

/-- Take a name out of the list of required ones. -/
def Facets.dropRequired (facets : Facets) (name : String) : Facets :=
  { facets with required := facets.required.map fun names => names.filter (· != name) }

namespace Schema

/-- Edit the facets and parts of an object schema. -/
def edit (schema : Schema) (change : Facets → Parts Schema → Facets × Parts Schema) : Schema :=
  match schema with
  | boolean accepts => boolean accepts
  | object facets parts =>
    let (facets, parts) := change facets parts
    object facets parts

/-- A map of properties. -/
def propertyMap? (schema : Schema) (kind : PropertyKind) : Option (Members Schema) :=
  schema.parts?.bind fun parts => parts.map? kind.keyword

/-- Put a property at the end, or in the place of the one with its name. The map is created if there
is none. -/
def insertProperty (schema : Schema) (kind : PropertyKind) (name : String) (property : Schema) :
    Schema :=
  schema.edit fun facets parts =>
    (facets, parts.setMap (Members.insert ((parts.map? kind.keyword).getD []) name property)
      kind.keyword)

/-- Remove a property and its mention among the required ones. Without the map nothing changes. -/
def removeProperty (schema : Schema) (kind : PropertyKind) (name : String) : Schema :=
  schema.edit fun facets parts =>
    match parts.map? kind.keyword with
    | none => (facets, parts)
    | some properties =>
      (facets.dropRequired name, parts.setMap (Members.erase properties name) kind.keyword)

/-- A name after renaming. -/
def renamed (old new name : String) : String := if name = old then new else name

/-- Rename a property in its place, and among the required ones. Without the map nothing changes. -/
def renameProperty (schema : Schema) (kind : PropertyKind) (old new : String) : Schema :=
  schema.edit fun facets parts =>
    match parts.map? kind.keyword with
    | none => (facets, parts)
    | some properties =>
      ({ facets with required := facets.required.map (·.map (renamed old new)) },
       parts.setMap
        -- if the new name is in use, the two become one entry, with the schema of the later
        (Members.ofEntries (properties.map fun entry => (renamed old new entry.1, entry.2)))
        kind.keyword)

/-- Put a name into the list of required ones, or take it out. -/
def setRequired (schema : Schema) (name : String) (required : Bool) : Schema :=
  schema.edit fun facets parts =>
    if required then
      let names := facets.required.getD []
      ({ facets with required := some (if name ∈ names then names else names ++ [name]) }, parts)
    else (facets.dropRequired name, parts)

/-- Whether a name is among the required ones. -/
def isRequired (schema : Schema) (name : String) : Bool :=
  ((schema.facets?.bind Facets.required).getD []).contains name

/-- The properties of a map in order. -/
def propertyList (schema : Schema) (kind : PropertyKind) : List Property :=
  ((schema.propertyMap? kind).getD []).map fun (name, property) =>
    ⟨name, property, schema.isRequired name⟩

/-- Move a property to the end of the other map, if it is in the one given. -/
def toggleProperty (schema : Schema) (kind : PropertyKind) (name : String) : Schema :=
  match (schema.propertyMap? kind).bind (List.lookup name) with
  | none => schema
  | some property => (schema.removeProperty kind name).insertProperty kind.other name property

/-- The `items` of an array schema. -/
def arrayItems? (schema : Schema) : Option (Items Schema) :=
  if schema.isType .array then schema.parts?.bind Parts.items else none

/-- Replace the `items` of an array schema. -/
def setArrayItems (schema : Schema) (items : Items Schema) : Schema :=
  if schema.isType .array then
    schema.edit fun facets parts => (facets, { parts with items := some items })
  else schema

/-- Whether a schema has properties to show below it: its own, or those of the elements of an array.
-/
def hasChildren (schema : Schema) : Bool :=
  if schema.isType .object then (schema.propertyMap? .named).any (!·.isEmpty)
  else
    match schema.arrayItems? with
    | some (.single items) => items.isType .object && (items.propertyMap? .named).isSome
    | _ => false

end Schema

end JsonShape
