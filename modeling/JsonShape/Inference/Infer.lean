import JsonShape.Inference.Config
import JsonShape.Inference.Format
import JsonShape.Inference.Refinement
import JsonShape.Pattern.Syntax

/-!
# Inferring schemas

`Inferrer.infer` gives a schema for a value. The elements of an array get one schema: if all have
the same type it is that of the first element, or for objects one whose properties are merged and
refined; elements of different types get a choice.
-/

namespace JsonShape

/-- Why settings are refused: a pattern that is none. -/
structure ConfigError where
  /-- What the pattern is for. -/
  purpose : String
  pattern : String
  fault : PatternFault

/-- The wording of an error. -/
def ConfigError.message (error : ConfigError) : String :=
  s!"Invalid {error.purpose} pattern '{error.pattern}': {error.fault.message}"

/-- Settings that are ready for use. -/
structure Inferrer where
  config : InferenceConfig
  /-- The refinements of properties, in the order in which they are applied. -/
  refinements : List Refinement

namespace Inferrer

/-- Prepare settings. The clock is asked only if they do not fix the present. -/
def ofConfig (config : InferenceConfig) (clockMs : Int) : Except ConfigError Inferrer := do
  let compile (purpose pattern : String) : Except ConfigError Regex :=
    (Regex.compile pattern).mapError fun fault => ⟨purpose, pattern, fault⟩
  let places ← compile "coordinate" config.coordinatePattern
  let times ← compile "timestamp" config.timestampPattern
  let floor := Refinement.floorMs (config.referenceTimeMs.getD clockMs) config.timestampFloorYears
  return {
    config := config
    refinements :=
      [.listing config.enumMinItems config.enumMaxValues config.enumMaxRatio,
       .coordinates places,
       .timestamps times floor] }

/-! ### Schemas of parts -/

/-- The names of a list in order, or nothing if there are none. -/
def sortedNames (names : List String) : Option (List String) :=
  if names.isEmpty then none else some (names.mergeSort fun a b => decide (a ≤ b))

/-- The schema of objects with some properties, of which some are required. -/
def objectSchema (properties : Members Schema) (required : List String) : Schema :=
  .object { type := some (.single .object), required := sortedNames required }
    { properties := some properties }

/-- The schema of a number. -/
def ofNumber (number : Number) : Schema := .typed (if number.isWhole then .integer else .number)

/-- The schema of a string. -/
def ofString (inferrer : Inferrer) (text : String) : Schema :=
  .object
    { type := some (.single .string),
      format :=
        if inferrer.config.detectFormats then (StringFormat.detect text).map StringFormat.name
        else none }
    {}

/-- Merge properties into those seen before. -/
def mergeProperties (seen properties : Members Schema) : Members Schema :=
  properties.foldl
    (fun seen (name, schema) =>
      seen.insert name ((seen.lookup name).elim schema fun known => known.merge schema))
    seen

/-- The properties of a schema. -/
def propertiesOf (schema : Schema) : Members Schema := (schema.parts?.bind Parts.properties).getD []

/-- One schema for objects: a property is required if every object has it. -/
def unify (inferrer : Inferrer) (schemas : List Schema) (samples : List Json) : Schema :=
  let merged := (schemas.map propertiesOf).foldl mergeProperties []
  let required := merged.names.filter fun name =>
    schemas.all fun schema => (propertiesOf schema).contains name
  let refined := inferrer.refinements.foldl (fun properties refinement =>
    refinement.apply properties samples) merged
  objectSchema refined required

/-- The `type` of a schema. -/
def typeOf (schema : Schema) : Option TypeSpec := schema.asObject.facets?.bind Facets.type

/-- The schema of all elements of an array, given those of each and the elements. -/
def elementSchema (inferrer : Inferrer) (first : Schema) (rest : List Schema)
    (samples : List Json) : Schema :=
  let schemas := first :: rest
  if schemas.all fun schema => relateOption TypeSpec.same (typeOf schema) (typeOf first) then
    -- elements of one type may still differ, in format or in depth: the first speaks for all
    if first.isType .object then inferrer.unify schemas samples else first
  else Schema.choice (Schema.dedup schemas)

/-- The schema of an array, given those of its elements. Only of an empty array nothing is known. -/
def arraySchema (inferrer : Inferrer) (schemas : List Schema) (samples : List Json) : Schema :=
  match schemas with
  | [] => .object (.typed .array) { items := some (.single .empty) }
  | first :: rest =>
    .object { type := some (.single .array), minItems := some 0 }
      { items := some (.single (inferrer.elementSchema first rest samples)) }

/-! ### Schemas of values -/

mutual

/-- The schema of a value. -/
def infer (inferrer : Inferrer) : Json → Schema
  | .null => .typed .null
  | .bool _ => .typed .boolean
  | .number number => ofNumber number
  | .string text => inferrer.ofString text
  | .array elements => inferrer.arraySchema (inferAll inferrer elements) elements
  | .object members =>
    objectSchema (inferMembers inferrer members)
      ((members.filter fun (_, value) => !value.isNull).map Prod.fst)

/-- The schemas of the elements of an array. -/
def inferAll (inferrer : Inferrer) : List Json → List Schema
  | [] => []
  | value :: rest => infer inferrer value :: inferAll inferrer rest

/-- The schemas of the members of an object. -/
def inferMembers (inferrer : Inferrer) : List (String × Json) → List (String × Schema)
  | [] => []
  | (name, value) :: rest => (name, infer inferrer value) :: inferMembers inferrer rest

end

end Inferrer

end JsonShape
