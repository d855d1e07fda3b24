import JsonShape.Instance.Assertion
import JsonShape.Schema.Loading

/-!
# Well-formed schemas

Before a schema is used, the values of its keywords are checked for the form that the standard
demands, in all sub-schemas. The first fault is reported. There are two editions of the standard,
which list the keywords in different orders; a schema chooses by its `$schema`.
-/

namespace JsonShape

/-- The form that the value of a keyword has to have. -/
inductive KeywordForm
  | text | flag | number | positive | count | list | names | types
  | schema | schemas | schemaOrSchemas | schemaMap
deriving DecidableEq, Repr

/-- The editions of the standard. -/
inductive Edition
  | draft7 | draft2020
deriving DecidableEq, Repr

namespace Edition

/-- The edition that a schema chooses. -/
def ofSchema (schema : Json) : Edition :=
  match schema.member? "$schema" with
  | some (.string uri) =>
    if ["http://json-schema.org/draft-07/schema", "http://json-schema.org/draft-07/schema#",
        "https://json-schema.org/draft-07/schema",
        "https://json-schema.org/draft-07/schema#"].contains uri then draft7
    else draft2020
  | _ => draft2020

/-- The keywords of an edition with their forms, in the order in which they are checked. -/
def keywords : Edition → List (String × KeywordForm)
  | draft7 =>
    [("$id", .text), ("$schema", .text), ("$ref", .text), ("$comment", .text), ("title", .text),
     ("description", .text), ("readOnly", .flag), ("writeOnly", .flag), ("examples", .list),
     ("multipleOf", .positive), ("maximum", .number), ("exclusiveMaximum", .number),
     ("minimum", .number), ("exclusiveMinimum", .number), ("maxLength", .count),
     ("minLength", .count), ("pattern", .text), ("additionalItems", .schema),
     ("items", .schemaOrSchemas), ("maxItems", .count), ("minItems", .count),
     ("uniqueItems", .flag), ("contains", .schema), ("maxProperties", .count),
     ("minProperties", .count), ("required", .names), ("additionalProperties", .schema),
     ("definitions", .schemaMap), ("properties", .schemaMap), ("patternProperties", .schemaMap),
     ("propertyNames", .schema), ("enum", .list), ("type", .types), ("format", .text),
     ("contentMediaType", .text), ("contentEncoding", .text), ("if", .schema), ("then", .schema),
     ("else", .schema), ("allOf", .schemas), ("anyOf", .schemas), ("oneOf", .schemas),
     ("not", .schema)]
  | draft2020 =>
    [("$id", .text), ("$schema", .text), ("$ref", .text), ("$anchor", .text),
     ("$dynamicRef", .text), ("$dynamicAnchor", .text), ("$comment", .text),
     ("$defs", .schemaMap), ("prefixItems", .schemas), ("items", .schema), ("contains", .schema),
     ("additionalProperties", .schema), ("properties", .schemaMap),
     ("patternProperties", .schemaMap), ("dependentSchemas", .schemaMap),
     ("propertyNames", .schema), ("if", .schema), ("then", .schema), ("else", .schema),
     ("allOf", .schemas), ("anyOf", .schemas), ("oneOf", .schemas), ("not", .schema),
     ("unevaluatedItems", .schema), ("unevaluatedProperties", .schema), ("type", .types),
     ("enum", .list), ("multipleOf", .positive), ("maximum", .number),
     ("exclusiveMaximum", .number), ("minimum", .number), ("exclusiveMinimum", .number),
     ("maxLength", .count), ("minLength", .count), ("pattern", .text), ("maxItems", .count),
     ("minItems", .count), ("uniqueItems", .flag), ("maxContains", .count),
     ("minContains", .count), ("maxProperties", .count), ("minProperties", .count),
     ("required", .names), ("title", .text), ("description", .text), ("deprecated", .flag),
     ("readOnly", .flag), ("writeOnly", .flag), ("examples", .list), ("format", .text),
     ("contentEncoding", .text), ("contentMediaType", .text), ("contentSchema", .schema),
     ("definitions", .schemaMap)]

end Edition

namespace KeywordForm

/-- The first violation of a list of assertions. -/
def first? (assertions : List (Assertion Check)) (value : Json) : Option Violated :=
  (assertions.flatMap fun assertion => assertion.violations value).head?

/-- Whether a value names one type, or several different ones. -/
def namesTypes : Json → Bool
  | .string name => (TypeName.ofName? name).isSome
  | .array elements =>
    !elements.isEmpty && (TypeName.listOf? elements).isSome && Json.allDistinct elements
  | _ => false

/-- The fault of a value of a form without sub-schemas. -/
def fault? (value : Json) : KeywordForm → Option Violated
  | text => first? [.type [.string]] value
  | flag => first? [.type [.boolean]] value
  | number => first? [.type [.number]] value
  | positive => first? [.type [.number], .exclusiveMinimum 0] value
  | count => first? [.type [.integer], .minimum 0] value
  | list => first? [.type [.array]] value
  | names =>
    first? [.type [.array], .items (Assertion.violations (.type [.string])), .distinct] value
  | types => if namesTypes value then none else some (.here value (.noneAccept .anyOf))
  | _ => none

end KeywordForm

namespace Edition

variable (edition : Edition)

mutual

/-- The first fault of a schema. -/
def fault? : Json → Option Violated
  | .bool _ => none
  | .object members =>
    let faults := memberFaults members
    edition.keywords.findSome? fun (name, _) => (faults.lookup name).join
  | value => some (.here value (.wrongType [.boolean, .object]))

/-- The first fault of each member of a schema. -/
def memberFaults : List (String × Json) → List (String × Option Violated)
  | [] => []
  | (name, value) :: rest =>
    (name, (edition.keywords.lookup name).bind (valueFault? value)) :: memberFaults rest

/-- The first fault of the value of a keyword of a form. -/
def valueFault? (value : Json) (form : KeywordForm) : Option Violated :=
  match form, value with
  | .schema, value => fault? value
  | .schemas, .array [] => some (.here (.array []) (.tooFew .items 1))
  | .schemas, .array schemas => listFault? schemas
  | .schemas, value => some (.here value (.wrongType [.array]))
  | .schemaOrSchemas, .array [] => some (.here (.array []) (.noneAccept .anyOf))
  | .schemaOrSchemas, .array schemas =>
    (listFault? schemas).map fun _ => .here (.array schemas) (.noneAccept .anyOf)
  | .schemaOrSchemas, value => (fault? value).map fun _ => .here value (.noneAccept .anyOf)
  | .schemaMap, .object schemas => mapFault? schemas
  | .schemaMap, value => some (.here value (.wrongType [.object]))
  | form, value => form.fault? value

/-- The first fault in a list of schemas. -/
def listFault? : List Json → Option Violated
  | [] => none
  | schema :: rest => (fault? schema).or (listFault? rest)

/-- The first fault in a map of schemas. -/
def mapFault? : List (String × Json) → Option Violated
  | [] => none
  | (_, schema) :: rest => (fault? schema).or (mapFault? rest)

end

end Edition

/-- The first fault of a schema by the edition that it chooses. -/
def Json.schemaFault? (schema : Json) : Option Violated := (Edition.ofSchema schema).fault? schema

end JsonShape
