import JsonShape.Binary64.Extended
import JsonShape.Instance.Violation

/-!
# Assertions about values

A keyword makes an assertion about a value. Assertions with sub-schemas hold a check for each of
them. The violations of an assertion (`Assertion.violations`) are those of the value itself and
those of its parts.
-/

namespace JsonShape

/-- What a schema finds wrong with a value. -/
abbrev Check := Json → List Violated

/-- An assertion, with sub-schemas of some form. -/
inductive Assertion (α : Type)
  | type (types : List TypeName)
  | properties (schemas : List (String × α))
  | required (names : List String)
  | items (schema : α)
  | choices (values : List Json)
  | constant (value : Json)
  | minimum (limit : Number)
  | maximum (limit : Number)
  | exclusiveMinimum (limit : Number)
  | exclusiveMaximum (limit : Number)
  | multipleOf (divisor : Number)
  | least (counted : Counted) (limit : Nat)
  | most (counted : Counted) (limit : Nat)
  | distinct
  /-- No properties at all. -/
  | noProperties
  /-- The given properties and no others. -/
  | onlyProperties (schemas : List (String × α))
  /-- The given properties, and a schema for all others. -/
  | otherProperties (schemas : List (String × α)) (others : α)
  | oneOf (schemas : List α)
  | anyOf (schemas : List α)
  | allOf (schemas : List α)
  | negation (written : Json) (schema : α)

/-- Whether a value has a type. Whole numbers are integers, however they are spelled. -/
def TypeName.hasValue : TypeName → Json → Bool
  | null, .null => true
  | boolean, .bool _ => true
  | number, .number _ => true
  | integer, .number value => value.isWhole
  | string, .string _ => true
  | array, .array _ => true
  | object, .object _ => true
  | _, _ => false

/-- Whether no two values of a list are equal. -/
def Json.allDistinct : List Json → Bool
  | [] => true
  | value :: rest => !rest.any (value.equals ·) && allDistinct rest

namespace Binary64

/-- Whether a number is a multiple of another one, as far as the rounded quotient shows. A whole
divisor is tested exactly. For any other the fraction of the quotient, which has the sign of the
quotient, has to be less than `2 ^ (-52)`; if the quotient is too large, the exact one has to be
whole. -/
def isMultipleOf (x divisor : Binary64) : Bool :=
  if divisor.isWhole then
    x.isWhole && divisor.magnitude != 0 && x.magnitude % divisor.magnitude == 0
  else
    match x.div divisor with
    | .finite quotient =>
      quotient.negative || decide ((quotient.magnitude % one) * twoPow 52 < one)
    | _ => x.magnitude % divisor.magnitude == 0

end Binary64

namespace Assertion

/-- The number of things in a value, if it has such things. -/
def count? : Counted → Json → Option Nat
  | .characters, .string text => some text.length
  | .items, .array elements => some elements.length
  | .properties, .object members => some members.length
  | _, _ => none

/-- A violation by the value itself unless a condition holds. -/
def require (holds : Bool) (value : Json) (reason : Reason) : List Violated :=
  if holds then [] else [.here value reason]

/-- The violations of a part under a key. -/
def within (key : String) (check : Check) (value : Json) : List Violated :=
  (check value).map (Violated.under key)

/-- A violation by a value that is a number for which a condition does not hold. -/
def ofNumber (value : Json) (holds : Number → Bool) (reason : Reason) : List Violated :=
  match value with
  | .number number => require (holds number) value reason
  | _ => []

/-- A violation by a value that holds a count for which a condition does not hold. -/
def ofCount (counted : Counted) (value : Json) (holds : Nat → Bool) (reason : Reason) :
    List Violated :=
  require ((count? counted value).all holds) value reason

/-- The violations of an assertion by a value. -/
def violations (assertion : Assertion Check) (value : Json) : List Violated :=
  match assertion, value with
  | type types, value => require (types.any (·.hasValue value)) value (.wrongType types)
  | properties schemas, .object members =>
    schemas.flatMap fun (name, check) =>
      ((members.lookup name).map (within name check)).getD []
  | required names, .object members =>
    names.flatMap fun name => require (Members.contains members name) value (.missing name)
  | items check, .array elements =>
    elements.zipIdx.flatMap fun (element, index) => within (toString index) check element
  | choices values, value => require (values.any (·.equals value)) value (.notListed values)
  | constant expected, value => require (expected.equals value) value (.notEqual expected)
  | minimum limit, value => ofNumber value (fun x => !x.lt limit) (.belowMinimum limit)
  | maximum limit, value => ofNumber value (fun x => !limit.lt x) (.aboveMaximum limit)
  | exclusiveMinimum limit, value => ofNumber value (fun x => limit.lt x) (.notAbove limit)
  | exclusiveMaximum limit, value => ofNumber value (fun x => x.lt limit) (.notBelow limit)
  | multipleOf divisor, value =>
    ofNumber value (fun x => x.toBinary64.isMultipleOf divisor.toBinary64) (.notMultiple divisor)
  | least counted limit, value => ofCount counted value (limit ≤ ·) (.tooFew counted limit)
  | most counted limit, value => ofCount counted value (· ≤ limit) (.tooMany counted limit)
  | distinct, .array elements => require (Json.allDistinct elements) value .repeated
  | noProperties, .object ((_, first) :: _) => [.here first .falseSchema]
  | onlyProperties schemas, .object members =>
    let extra := members.filter fun (name, _) => !Members.contains schemas name
    (members.flatMap fun (name, part) =>
        ((schemas.lookup name).map fun check => within name check part).getD [])
      ++ require extra.isEmpty value (.unexpected (Members.names extra))
  | otherProperties schemas others, .object members =>
    members.flatMap fun (name, part) => within name ((schemas.lookup name).getD others) part
  | oneOf checks, value =>
    match (checks.filter fun check => (check value).isEmpty).length with
    | 0 => [.here value (.noneAccept .oneOf)]
    | 1 => []
    | _ => [.here value .severalAccept]
  | anyOf checks, value =>
    require (checks.any fun check => (check value).isEmpty) value (.noneAccept .anyOf)
  | allOf checks, value => checks.flatMap fun check => check value
  | negation written check, value => require (!(check value).isEmpty) value (.forbidden written)
  | _, _ => []

end Assertion

end JsonShape
