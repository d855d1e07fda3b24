/-!
# The keywords with a meaning of their own

A schema may hold any keyword. Thirty-four of them are read into fields; they are grouped here by
the form of their value, and `Keyword.ofName?` finds the keyword of a name. `Keyword.all` lists them
in the order in which a schema is written.
-/

namespace JsonShape

/-- Keywords whose value is a string. -/
inductive TextKeyword
  | schemaUri | id | title | description | pattern | format
deriving DecidableEq, Repr

/-- Keywords whose value is a number. -/
inductive NumberKeyword
  | minProperties | maxProperties
  | minItems | maxItems | minContains | maxContains
  | minLength | maxLength
  | minimum | maximum | exclusiveMinimum | exclusiveMaximum | multipleOf
deriving DecidableEq, Repr

/-- Keywords whose value is an object of schemas. -/
inductive MapKeyword
  | properties | patternProperties | defs | definitions
deriving DecidableEq, Repr

/-- Keywords whose value is a list of schemas. -/
inductive ListKeyword
  | prefixItems | allOf | anyOf | oneOf
deriving DecidableEq, Repr

/-- Keywords whose value is one schema. -/
inductive SingleKeyword
  | additionalProperties | negation
deriving DecidableEq, Repr

/-- The keywords whose value is a string. -/
def TextKeyword.all : List TextKeyword := [schemaUri, id, title, description, pattern, format]

/-- The keywords whose value is a number. -/
def NumberKeyword.all : List NumberKeyword :=
  [minProperties, maxProperties, minItems, maxItems, minContains, maxContains, minLength, maxLength,
   minimum, maximum, exclusiveMinimum, exclusiveMaximum, multipleOf]

/-- The keywords whose value is an object of schemas. -/
def MapKeyword.all : List MapKeyword := [properties, patternProperties, defs, definitions]

/-- The keywords whose value is a list of schemas. -/
def ListKeyword.all : List ListKeyword := [prefixItems, allOf, anyOf, oneOf]

/-- The keywords whose value is one schema. -/
def SingleKeyword.all : List SingleKeyword := [additionalProperties, negation]

theorem TextKeyword.mem_all (keyword : TextKeyword) : keyword ∈ all := by cases keyword <;> decide

theorem NumberKeyword.mem_all (keyword : NumberKeyword) : keyword ∈ all := by
  cases keyword <;> decide

theorem MapKeyword.mem_all (keyword : MapKeyword) : keyword ∈ all := by cases keyword <;> decide

theorem ListKeyword.mem_all (keyword : ListKeyword) : keyword ∈ all := by cases keyword <;> decide

theorem SingleKeyword.mem_all (keyword : SingleKeyword) : keyword ∈ all := by
  cases keyword <;> decide

/-- A keyword that has a field. -/
inductive Keyword
  | text (keyword : TextKeyword)
  | number (keyword : NumberKeyword)
  | map (keyword : MapKeyword)
  | list (keyword : ListKeyword)
  | single (keyword : SingleKeyword)
  | type
  | required
  | uniqueItems
  | choices
  | items
deriving DecidableEq, Repr

namespace Keyword

/-- The name under which a keyword stands in a schema. -/
def name : Keyword → String
  | text .schemaUri => "$schema"
  | text .id => "$id"
  | text .title => "title"
  | text .description => "description"
  | text .pattern => "pattern"
  | text .format => "format"
  | number .minProperties => "minProperties"
  | number .maxProperties => "maxProperties"
  | number .minItems => "minItems"
  | number .maxItems => "maxItems"
  | number .minContains => "minContains"
  | number .maxContains => "maxContains"
  | number .minLength => "minLength"
  | number .maxLength => "maxLength"
  | number .minimum => "minimum"
  | number .maximum => "maximum"
  | number .exclusiveMinimum => "exclusiveMinimum"
  | number .exclusiveMaximum => "exclusiveMaximum"
  | number .multipleOf => "multipleOf"
  | map .properties => "properties"
  | map .patternProperties => "patternProperties"
  | map .defs => "$defs"
  | map .definitions => "definitions"
  | list .prefixItems => "prefixItems"
  | list .allOf => "allOf"
  | list .anyOf => "anyOf"
  | list .oneOf => "oneOf"
  | single .additionalProperties => "additionalProperties"
  | single .negation => "not"
  | type => "type"
  | required => "required"
  | uniqueItems => "uniqueItems"
  | choices => "enum"
  | items => "items"

/-- The keywords in the order in which a schema is written. -/
def all : List Keyword :=
  [text .schemaUri, text .id, text .title, text .description, type,
   map .properties, map .patternProperties, required, single .additionalProperties,
   number .minProperties, number .maxProperties,
   items, list .prefixItems, number .minItems, number .maxItems, uniqueItems,
   number .minContains, number .maxContains,
   number .minLength, number .maxLength, text .pattern, text .format,
   number .minimum, number .maximum, number .exclusiveMinimum, number .exclusiveMaximum,
   number .multipleOf, choices,
   list .allOf, list .anyOf, list .oneOf, single .negation, map .defs, map .definitions]

/-- The keyword of a name. -/
def ofName? (name : String) : Option Keyword := all.find? fun keyword => keyword.name == name

theorem mem_all (keyword : Keyword) : keyword ∈ all := by
  cases keyword with
  | text k => cases k <;> decide
  | number k => cases k <;> decide
  | map k => cases k <;> decide
  | list k => cases k <;> decide
  | single k => cases k <;> decide
  | _ => decide

theorem nodup_names : (all.map name).Nodup := by decide

end Keyword

end JsonShape
