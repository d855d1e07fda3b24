import JsonShape.Instance.Assertion
import JsonShape.Schema.Loading

/-!
# Checking values against schemas

A schema is taken as the JSON value that it is written as. Its keywords are checked in their order;
what is no keyword known here asserts nothing. Where `additionalProperties` is more than `true`, it
takes over the work of `properties`.
-/

namespace JsonShape

namespace Assertion

variable {α : Type}

/-- The types that a `type` keyword names, in alphabetical order. -/
def typesOf? : Json → Option (List TypeName)
  | .string name => (TypeName.ofName? name).map ([·])
  | .array names =>
    (TypeName.listOf? names).map fun types => types.mergeSort fun a b => decide (a.name ≤ b.name)
  | _ => none

/-- The count that a number gives, if it is whole and not negative. -/
def limit? : Json → Option Nat
  | .number (.integer value _) => if 0 ≤ value then some value.toNat else none
  | .number (.real value) =>
    if value.isWhole && !value.negative then some (value.magnitude / Binary64.one) else none
  | _ => none

/-- The number that a keyword gives. -/
def number? : Json → Option Number
  | .number value => some value
  | _ => none

/-- The assertion of a keyword without sub-schemas. -/
def ofValue? (name : String) (value : Json) : Option (Assertion α) :=
  match name with
  | "type" => (typesOf? value).map .type
  | "required" =>
    match value with
    | .array names => (Json.stringList? names).map .required
    | _ => none
  | "enum" =>
    match value with
    | .array values => some (.choices values)
    | _ => none
  | "const" => some (.constant value)
  | "minimum" => (number? value).map .minimum
  | "maximum" => (number? value).map .maximum
  | "exclusiveMinimum" => (number? value).map .exclusiveMinimum
  | "exclusiveMaximum" => (number? value).map .exclusiveMaximum
  | "multipleOf" => (number? value).map .multipleOf
  | "minLength" => (limit? value).map (.least .characters)
  | "maxLength" => (limit? value).map (.most .characters)
  | "minItems" => (limit? value).map (.least .items)
  | "maxItems" => (limit? value).map (.most .items)
  | "minProperties" => (limit? value).map (.least .properties)
  | "maxProperties" => (limit? value).map (.most .properties)
  | "uniqueItems" =>
    match value with
    | .bool true => some .distinct
    | _ => none
  | _ => none

/-- Whether the members of a schema say something about properties that are not named. -/
def closesProperties (members : List (String × Json)) : Bool :=
  match members.lookup "additionalProperties" with
  | some (.bool false) => true
  | some (.object _) => true
  | _ => false

/-- The sub-schemas for named properties, if there is an assertion about these. -/
def namedProperties? : List (Assertion α) → Option (List (String × α))
  | [] => none
  | properties schemas :: _ => some schemas
  | _ :: rest => namedProperties? rest

/-- Whether an assertion is about named properties only. -/
def isProperties : Assertion α → Bool
  | properties _ => true
  | _ => false

/-- Give the named properties to the assertion about other ones. -/
def withProperties (schemas : List (String × α)) : Assertion α → Assertion α
  | noProperties => onlyProperties schemas
  | otherProperties _ others => otherProperties schemas others
  | assertion => assertion

/-- The assertions of a schema in which `additionalProperties` takes over from `properties`. -/
def takeOver (assertions : List (Assertion α)) : List (Assertion α) :=
  match namedProperties? assertions with
  | none => assertions
  | some schemas =>
    (assertions.filter fun assertion => !isProperties assertion).map (withProperties schemas)

end Assertion

namespace Validation

mutual

/-- The check that a schema stands for. -/
def ofJson : Json → Check
  | .bool accepts => fun value => if accepts then [] else [.here value .falseSchema]
  | .object members =>
    let assertions := ofMembers members
    let assertions :=
      if Assertion.closesProperties members then Assertion.takeOver assertions else assertions
    fun value => assertions.flatMap fun assertion => assertion.violations value
  | _ => fun _ => []

/-- The checks that the schemas of a list stand for. -/
def ofList : List Json → List Check
  | [] => []
  | schema :: rest => ofJson schema :: ofList rest

/-- The checks that named schemas stand for. -/
def ofMap : List (String × Json) → List (String × Check)
  | [] => []
  | (name, schema) :: rest => (name, ofJson schema) :: ofMap rest

/-- The assertions of the members of a schema. -/
def ofMembers : List (String × Json) → List (Assertion Check)
  | [] => []
  | (name, value) :: rest => (ofMember name value).toList ++ ofMembers rest

/-- The assertion of one member of a schema. -/
def ofMember (name : String) (value : Json) : Option (Assertion Check) :=
  match name, value with
  | "properties", .object schemas => some (.properties (ofMap schemas))
  | "items", .bool accepts => some (.items (ofJson (.bool accepts)))
  | "items", .object schema => some (.items (ofJson (.object schema)))
  | "additionalProperties", .bool false => some .noProperties
  | "additionalProperties", .object schema => some (.otherProperties [] (ofJson (.object schema)))
  | "oneOf", .array schemas => some (.oneOf (ofList schemas))
  | "anyOf", .array schemas => some (.anyOf (ofList schemas))
  | "allOf", .array schemas => some (.allOf (ofList schemas))
  | "not", schema => some (.negation schema (ofJson schema))
  | name, value => Assertion.ofValue? name value

end

end Validation

/-- What a schema finds wrong with a value. -/
def Json.violations (schema value : Json) : List Violated := Validation.ofJson schema value

/-- Whether a schema accepts a value. -/
def Json.accepts (schema value : Json) : Bool := (schema.violations value).isEmpty

end JsonShape
