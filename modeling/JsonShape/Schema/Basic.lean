import JsonShape.Json.Basic
import JsonShape.Schema.Keyword

/-!
# Schemas

A schema is a boolean, or an object of keywords. The keywords without sub-schemas are the schema's
`Facets`, those with sub-schemas its `Parts`. What has no field, or has a field but not the form
that the field takes, is kept in `Facets.extra`.

`Parts` is a container of sub-schemas like any other, so it has a `map` and a list of its elements.
`Schema.fold` computes a result for every schema from the results of its parts, and
`Schema.induction` proves a property in the same way; nothing else in the library recurses on
schemas.
-/

namespace JsonShape

/-- The seven types of JSON Schema. -/
inductive TypeName
  | string | number | integer | boolean | object | array | null
deriving DecidableEq, Repr

namespace TypeName

/-- The spelling of a type. -/
def name : TypeName → String
  | string => "string"
  | number => "number"
  | integer => "integer"
  | boolean => "boolean"
  | object => "object"
  | array => "array"
  | null => "null"

/-- The types in the order in which they are named to a user. -/
def all : List TypeName := [string, number, integer, boolean, object, array, null]

/-- The type of a name. -/
def ofName? (text : String) : Option TypeName := all.find? fun type => type.name == text

end TypeName

/-- The value of the `type` keyword. Names outside the seven types are kept as they were written. -/
inductive TypeSpec
  | single (type : TypeName)
  | several (types : List TypeName)
  | other (written : Json)

namespace TypeSpec

/-- The type a schema is treated as: the single one, or the first of a list. -/
def primary? : TypeSpec → Option TypeName
  | single type => some type
  | several types => types.head?
  | other (.array (.string first :: _)) => TypeName.ofName? first
  | other _ => none

/-- Whether this is just the one type. -/
def is : TypeSpec → TypeName → Bool
  | single type, expected => type == expected
  | _, _ => false

/-- Equality of specifications. -/
def same : TypeSpec → TypeSpec → Bool
  | single a, single b => a == b
  | several a, several b => a == b
  | other a, other b => a.same b
  | _, _ => false

/-- The value as it is written. -/
def toJson : TypeSpec → Json
  | single type => .string type.name
  | several types => .array (types.map fun type => .string type.name)
  | other written => written

end TypeSpec

/-- The value of the `items` keyword: a schema for every element, or one for each place. -/
inductive Items (α : Type)
  | tuple (schemas : List α)
  | single (schema : α)

/-- The keywords without sub-schemas. -/
structure Facets where
  schemaUri : Option String := none
  id : Option String := none
  title : Option String := none
  description : Option String := none
  type : Option TypeSpec := none
  required : Option (List String) := none
  minProperties : Option Number := none
  maxProperties : Option Number := none
  minItems : Option Number := none
  maxItems : Option Number := none
  uniqueItems : Option Bool := none
  minContains : Option Number := none
  maxContains : Option Number := none
  minLength : Option Number := none
  maxLength : Option Number := none
  pattern : Option String := none
  format : Option String := none
  minimum : Option Number := none
  maximum : Option Number := none
  exclusiveMinimum : Option Number := none
  exclusiveMaximum : Option Number := none
  multipleOf : Option Number := none
  choices : Option (List Json) := none
  /-- Keywords without a field, and keywords whose value does not have the form of their field. -/
  extra : Members Json := []

/-- The keywords with sub-schemas. -/
structure Parts (α : Type) where
  properties : Option (List (String × α)) := none
  patternProperties : Option (List (String × α)) := none
  additionalProperties : Option α := none
  items : Option (Items α) := none
  prefixItems : Option (List α) := none
  allOf : Option (List α) := none
  anyOf : Option (List α) := none
  oneOf : Option (List α) := none
  negation : Option α := none
  defs : Option (List (String × α)) := none
  definitions : Option (List (String × α)) := none

/-- A JSON Schema. -/
inductive Schema
  /-- The schema that accepts everything, or nothing. -/
  | boolean (accepts : Bool)
  | object (facets : Facets) (parts : Parts Schema)

/-! ### Fields by keyword -/

namespace Facets

/-- The field of a keyword whose value is a string. -/
def text? (facets : Facets) : TextKeyword → Option String
  | .schemaUri => facets.schemaUri
  | .id => facets.id
  | .title => facets.title
  | .description => facets.description
  | .pattern => facets.pattern
  | .format => facets.format

/-- Set the field of a keyword whose value is a string. -/
def setText (facets : Facets) (value : String) : TextKeyword → Facets
  | .schemaUri => { facets with schemaUri := some value }
  | .id => { facets with id := some value }
  | .title => { facets with title := some value }
  | .description => { facets with description := some value }
  | .pattern => { facets with pattern := some value }
  | .format => { facets with format := some value }

/-- The field of a keyword whose value is a number. -/
def number? (facets : Facets) : NumberKeyword → Option Number
  | .minProperties => facets.minProperties
  | .maxProperties => facets.maxProperties
  | .minItems => facets.minItems
  | .maxItems => facets.maxItems
  | .minContains => facets.minContains
  | .maxContains => facets.maxContains
  | .minLength => facets.minLength
  | .maxLength => facets.maxLength
  | .minimum => facets.minimum
  | .maximum => facets.maximum
  | .exclusiveMinimum => facets.exclusiveMinimum
  | .exclusiveMaximum => facets.exclusiveMaximum
  | .multipleOf => facets.multipleOf

/-- Set the field of a keyword whose value is a number. -/
def setNumber (facets : Facets) (value : Number) : NumberKeyword → Facets
  | .minProperties => { facets with minProperties := some value }
  | .maxProperties => { facets with maxProperties := some value }
  | .minItems => { facets with minItems := some value }
  | .maxItems => { facets with maxItems := some value }
  | .minContains => { facets with minContains := some value }
  | .maxContains => { facets with maxContains := some value }
  | .minLength => { facets with minLength := some value }
  | .maxLength => { facets with maxLength := some value }
  | .minimum => { facets with minimum := some value }
  | .maximum => { facets with maximum := some value }
  | .exclusiveMinimum => { facets with exclusiveMinimum := some value }
  | .exclusiveMaximum => { facets with exclusiveMaximum := some value }
  | .multipleOf => { facets with multipleOf := some value }

/-- The type a schema is treated as. -/
def primaryType? (facets : Facets) : Option TypeName := facets.type.bind TypeSpec.primary?

/-- Whether the type is just the given one. -/
def isType (facets : Facets) (type : TypeName) : Bool := facets.type.any (·.is type)

/-- Whether a keyword is present with a value that does not have the form of its field. -/
def isMisfit (facets : Facets) (keyword : Keyword) : Bool :=
  Members.contains facets.extra keyword.name

/-- Only a type. -/
def typed (type : TypeName) : Facets := { type := some (.single type) }

end Facets

namespace Items

variable {α β : Type}

/-- Apply a function to every sub-schema. -/
def map (f : α → β) : Items α → Items β
  | tuple schemas => tuple (schemas.map f)
  | single schema => single (f schema)

/-- The sub-schemas in order. -/
def toList : Items α → List α
  | tuple schemas => schemas
  | single schema => [schema]

end Items

namespace Parts

variable {α β : Type}

/-- The sub-schemas of a keyword with an object of them. -/
def map? (parts : Parts α) : MapKeyword → Option (Members α)
  | .properties => parts.properties
  | .patternProperties => parts.patternProperties
  | .defs => parts.defs
  | .definitions => parts.definitions

/-- Set the sub-schemas of a keyword with an object of them. -/
def setMap (parts : Parts α) (schemas : Members α) : MapKeyword → Parts α
  | .properties => { parts with properties := some schemas }
  | .patternProperties => { parts with patternProperties := some schemas }
  | .defs => { parts with defs := some schemas }
  | .definitions => { parts with definitions := some schemas }

/-- The sub-schemas of a keyword with a list of them. -/
def list? (parts : Parts α) : ListKeyword → Option (List α)
  | .prefixItems => parts.prefixItems
  | .allOf => parts.allOf
  | .anyOf => parts.anyOf
  | .oneOf => parts.oneOf

/-- Set the sub-schemas of a keyword with a list of them. -/
def setList (parts : Parts α) (schemas : List α) : ListKeyword → Parts α
  | .prefixItems => { parts with prefixItems := some schemas }
  | .allOf => { parts with allOf := some schemas }
  | .anyOf => { parts with anyOf := some schemas }
  | .oneOf => { parts with oneOf := some schemas }

/-- The sub-schema of a keyword with one of them. -/
def single? (parts : Parts α) : SingleKeyword → Option α
  | .additionalProperties => parts.additionalProperties
  | .negation => parts.negation

/-- Set the sub-schema of a keyword with one of them. -/
def setSingle (parts : Parts α) (schema : α) : SingleKeyword → Parts α
  | .additionalProperties => { parts with additionalProperties := some schema }
  | .negation => { parts with negation := some schema }

/-- Apply a function to the values of members. -/
def mapMembers (f : α → β) (members : List (String × α)) : List (String × β) :=
  members.map fun (name, value) => (name, f value)

/-- Apply a function to every sub-schema. -/
def map (f : α → β) (parts : Parts α) : Parts β where
  properties := parts.properties.map (mapMembers f)
  patternProperties := parts.patternProperties.map (mapMembers f)
  additionalProperties := parts.additionalProperties.map f
  items := parts.items.map (Items.map f)
  prefixItems := parts.prefixItems.map (List.map f)
  allOf := parts.allOf.map (List.map f)
  anyOf := parts.anyOf.map (List.map f)
  oneOf := parts.oneOf.map (List.map f)
  negation := parts.negation.map f
  defs := parts.defs.map (mapMembers f)
  definitions := parts.definitions.map (mapMembers f)

/-- The sub-schemas in the order of the fields. -/
def toList (parts : Parts α) : List α :=
  (parts.properties.getD []).map Prod.snd ++ (parts.patternProperties.getD []).map Prod.snd
    ++ parts.additionalProperties.toList ++ (parts.items.map Items.toList).getD []
    ++ parts.prefixItems.getD [] ++ parts.allOf.getD [] ++ parts.anyOf.getD []
    ++ parts.oneOf.getD [] ++ parts.negation.toList ++ (parts.defs.getD []).map Prod.snd
    ++ (parts.definitions.getD []).map Prod.snd

end Parts

/-! ### Recursion and induction -/

namespace Schema

section Fold

variable {α : Type} (onBoolean : Bool → α) (onObject : Facets → Parts α → α)

mutual

/-- The result for a schema from the results for its parts. -/
def fold : Schema → α
  | boolean accepts => onBoolean accepts
  | object facets ⟨properties, patternProperties, additionalProperties, items, prefixItems, allOf,
      anyOf, oneOf, negation, defs, definitions⟩ =>
    onObject facets
      { properties := foldMap? properties
        patternProperties := foldMap? patternProperties
        additionalProperties := foldSingle? additionalProperties
        items := foldItems? items
        prefixItems := foldList? prefixItems
        allOf := foldList? allOf
        anyOf := foldList? anyOf
        oneOf := foldList? oneOf
        negation := foldSingle? negation
        defs := foldMap? defs
        definitions := foldMap? definitions }

/-- The results for named schemas. -/
def foldMap : List (String × Schema) → List (String × α)
  | [] => []
  | (name, schema) :: rest => (name, fold schema) :: foldMap rest

/-- The results for schemas in a list. -/
def foldList : List Schema → List α
  | [] => []
  | schema :: rest => fold schema :: foldList rest

/-- The results for the named schemas of a keyword. -/
def foldMap? : Option (List (String × Schema)) → Option (List (String × α))
  | none => none
  | some schemas => some (foldMap schemas)

/-- The results for the list of schemas of a keyword. -/
def foldList? : Option (List Schema) → Option (List α)
  | none => none
  | some schemas => some (foldList schemas)

/-- The result for the schema of a keyword. -/
def foldSingle? : Option Schema → Option α
  | none => none
  | some schema => some (fold schema)

/-- The results for the value of `items`. -/
def foldItems? : Option (Items Schema) → Option (Items α)
  | none => none
  | some (.tuple schemas) => some (.tuple (foldList schemas))
  | some (.single schema) => some (.single (fold schema))

end

theorem foldMap_eq (schemas : List (String × Schema)) :
    foldMap onBoolean onObject schemas = Parts.mapMembers (fold onBoolean onObject) schemas := by
  induction schemas with
  | nil => rfl
  | cons entry rest ih =>
    obtain ⟨name, schema⟩ := entry
    simp only [foldMap, ih, Parts.mapMembers, List.map_cons]

theorem foldList_eq (schemas : List Schema) :
    foldList onBoolean onObject schemas = schemas.map (fold onBoolean onObject) := by
  induction schemas with
  | nil => rfl
  | cons schema rest ih => simp only [foldList, ih, List.map_cons]

theorem foldMap?_eq (schemas : Option (List (String × Schema))) :
    foldMap? onBoolean onObject schemas
      = schemas.map (Parts.mapMembers (fold onBoolean onObject)) := by
  cases schemas <;> simp [foldMap?, foldMap_eq]

theorem foldList?_eq (schemas : Option (List Schema)) :
    foldList? onBoolean onObject schemas = schemas.map (List.map (fold onBoolean onObject)) := by
  cases schemas <;> simp [foldList?, foldList_eq]

theorem foldSingle?_eq (schema : Option Schema) :
    foldSingle? onBoolean onObject schema = schema.map (fold onBoolean onObject) := by
  cases schema <;> simp [foldSingle?]

theorem foldItems?_eq (items : Option (Items Schema)) :
    foldItems? onBoolean onObject items = items.map (Items.map (fold onBoolean onObject)) := by
  rcases items with _ | (schemas | schema) <;> simp [foldItems?, Items.map, foldList_eq]

@[simp] theorem fold_boolean (accepts : Bool) :
    fold onBoolean onObject (boolean accepts) = onBoolean accepts := rfl

/-- The result for an object schema is computed from the results for its parts. -/
@[simp] theorem fold_object (facets : Facets) (parts : Parts Schema) :
    fold onBoolean onObject (object facets parts)
      = onObject facets (parts.map (fold onBoolean onObject)) := by
  obtain ⟨properties, patternProperties, additionalProperties, items, prefixItems, allOf, anyOf,
    oneOf, negation, defs, definitions⟩ := parts
  simp only [fold, Parts.map, foldMap?_eq, foldList?_eq, foldSingle?_eq, foldItems?_eq]

end Fold

/-- A property of schemas holds of all if it holds of an object schema whenever it holds of its
parts. -/
@[elab_as_elim]
theorem induction {motive : Schema → Prop} (boolean : ∀ accepts, motive (boolean accepts))
    (object : ∀ facets parts, (∀ part ∈ parts.toList, motive part) → motive (object facets parts))
    (schema : Schema) : motive schema :=
  @Schema.rec motive (fun parts => ∀ part ∈ parts.toList, motive part)
    (fun schemas? => ∀ entry ∈ schemas?.getD [], motive entry.2)
    (fun schema? => ∀ part ∈ schema?, motive part)
    (fun items? => ∀ part ∈ (items?.map Items.toList).getD [], motive part)
    (fun schemas? => ∀ part ∈ schemas?.getD [], motive part)
    (fun schemas => ∀ entry ∈ schemas, motive entry.2)
    (fun items => ∀ part ∈ items.toList, motive part)
    (fun schemas => ∀ part ∈ schemas, motive part)
    (fun entry => motive entry.2)
    boolean object
    (by
      intro properties patternProperties additionalProperties items prefixItems allOf anyOf oneOf
        negation defs definitions
      intros
      simp only [Parts.toList, List.mem_append, List.mem_map, Option.mem_toList] at *
      grind)
    (by simp) (by simp) (by simp) (by simp) (by simp) (by simp) (by simp) (by simp)
    (by simp) (fun _ _ head tail => List.forall_mem_cons.2 ⟨head, tail⟩)
    (by simp [Items.toList]) (by simp [Items.toList])
    (by simp) (fun _ _ head tail => List.forall_mem_cons.2 ⟨head, tail⟩) (by simp) schema

/-! ### Views of a schema -/

/-- The schema without keywords. -/
def empty : Schema := object {} {}

/-- The schema with only a type. -/
def typed (type : TypeName) : Schema := object (Facets.typed type) {}

instance : Inhabited Schema := ⟨empty⟩

/-- The facets of an object schema. -/
def facets? : Schema → Option Facets
  | boolean _ => none
  | object facets _ => some facets

/-- The parts of an object schema. -/
def parts? : Schema → Option (Parts Schema)
  | boolean _ => none
  | object _ parts => some parts

/-- The schema itself, or for a boolean schema the placeholder that only has the type `null`. -/
def asObject : Schema → Schema
  | boolean _ => typed .null
  | schema => schema

/-- Whether this is an object schema with just the given type. -/
def isType (schema : Schema) (type : TypeName) : Bool := schema.facets?.any (·.isType type)

/-- The type an object schema is treated as. -/
def primaryType? (schema : Schema) : Option TypeName := schema.facets?.bind Facets.primaryType?

/-- The description, or nothing. -/
def description (schema : Schema) : String := (schema.facets?.bind Facets.description).getD ""

/-- The schema with a choice of alternatives. -/
def oneOf (alternatives : List Schema) : Schema := object {} { oneOf := some alternatives }

end Schema

end JsonShape
