import JsonShape.Binary64.Extended
import JsonShape.Inference.Merge
import JsonShape.Pattern.Regex

/-!
# Refinements of properties

The elements of an array of objects show more about a property than the schemas of its values. A
refinement looks at the name of a property, its schema and the elements, and may replace the schema.
There are three: few distinct values are listed (`Refinement.listing`), arrays of two or three
numbers under a fitting name are coordinates (`Refinement.coordinates`), and integers under a
fitting name that are not too small are timestamps (`Refinement.timestamps`).
-/

namespace JsonShape

/-- A rule that may replace the schema of a property, given the elements that may have it. -/
structure Refinement where
  name : String
  refine? : (property : String) → Schema → (samples : List Json) → Option Schema

namespace Refinement

/-- Refine every property. -/
def apply (refinement : Refinement) (properties : Members Schema) (samples : List Json) :
    Members Schema :=
  properties.map fun (property, schema) =>
    (property, (refinement.refine? property schema samples).getD schema)

/-- The values of a property in those samples that are objects and have it. -/
def observed (property : String) (samples : List Json) : List Json :=
  samples.filterMap (Json.member? property)

/-! ### Listed values -/

/-- Equality of values in which the spelling of a number does not count. -/
def sameValue : Json → Json → Bool
  | .number a, .number b => a.toBinary64.same b.toBinary64
  | a, b => a.same b

/-- Add a value to those seen, unless an equal one is among them. There may not be more than a
limit. -/
def addDistinct (limit : Nat) (seen : List Json) (value : Json) : Option (List Json) :=
  if seen.any (sameValue · value) then some seen
  else if seen.length < limit then some (seen ++ [value])
  else none

/-- The values of a list without those that are equal to an earlier one, if they are not more than a
limit. -/
def distinct? (limit : Nat) (values : List Json) : Option (List Json) :=
  values.foldlM (addDistinct limit) []

/-- The order of listed values: numbers by size, then strings by their characters. -/
def valueLe : Json → Json → Bool
  | .number a, .number b => a.toBinary64.compareTotal b.toBinary64 != .gt
  | .number _, _ => true
  | _, .number _ => false
  | .string a, .string b => decide (a ≤ b)
  | _, _ => true

/-- The single type of a schema whose values can be listed. -/
def listedType? (schema : Schema) : Option TypeName :=
  match schema.facets?.bind Facets.type with
  | some (.single type) =>
    if type = .string ∨ type = .number ∨ type = .integer then some type else none
  | _ => none

/-- Whether a count is below a share of a total. The share is finite, as all shares that are read
are. A count is refused if it reaches the product, so with a share that is not a number, which no
count reaches, every count would pass. -/
def belowShare (count total : Nat) (ratio : Binary64) : Bool :=
  !((Binary64.ofInt total).mul ratio).le (.finite (Binary64.ofInt count))

/-- Lists the values of a property of strings or numbers, if there are enough samples and few enough
values, but more than one. The share that the values must stay below is a finite number, as
`InferenceConfig.enumMaxRatio` is. -/
def listing (minItems maxValues : Nat) (maxRatio : Binary64) : Refinement where
  name := "enum"
  refine? property schema samples :=
    if samples.length < minItems then none
    else
      (listedType? schema).bind fun type =>
        let listable := (observed property samples).filter fun value =>
          value.isString || value.isNumber
        (distinct? maxValues listable).bind fun values =>
          -- one value alone says nothing about the others a property may have
          if 1 < values.length && belowShare values.length samples.length maxRatio then
            some (.object
              { type := some (.single type), choices := some (values.mergeSort valueLe) } {})
          else none

/-! ### Coordinates -/

/-- Whether a schema is for arrays with one numeric schema for all elements. -/
def hasNumericItems (schema : Schema) : Bool :=
  schema.isType .array &&
    match schema.parts?.bind Parts.items with
    | some (.single items) => items.isType .number || items.isType .integer
    | _ => false

/-- The length of a value that is an array of two or three numbers. -/
def tupleLength? : Json → Option Nat
  | .array elements =>
    if (elements.length = 2 ∨ elements.length = 3) ∧ elements.all Json.isNumber then
      some elements.length
    else none
  | _ => none

/-- The length that all values have as arrays of numbers, if there are any. -/
def commonLength? (values : List Json) : Option Nat :=
  match values with
  | [] => none
  | first :: rest =>
    (tupleLength? first).bind fun length =>
      if rest.all fun value => tupleLength? value == some length then some length else none

/-- Arrays of numbers of a fixed length. -/
def tupleSchema (length : Nat) : Schema :=
  let count : Number := .ofInt length
  .object { type := some (.single .array), minItems := some count, maxItems := some count }
    { items := some (.single (.typed .number)) }

/-- Fixes the length of coordinates. -/
def coordinates (pattern : Regex) : Refinement where
  name := "coordinates"
  refine? property schema samples :=
    if pattern.isFoundIn property && hasNumericItems schema then
      (commonLength? (observed property samples)).map tupleSchema
    else none

/-! ### Timestamps -/

/-- The nearest integer of 64 bits. -/
def clamp64 (n : Int) : Int := max (-9223372036854775808) (min n 9223372036854775807)

/-- The milliseconds of a year of 365 days. -/
def yearMs : Int := 365 * 24 * 60 * 60 * 1000

/-- The least number of milliseconds since the epoch that counts as a timestamp, some years before
the present. Each step stays within 64 bits. -/
def floorMs (now : Int) (years : Nat) : Int := clamp64 (now - clamp64 (years * yearMs))

/-- Whether a value is a whole number that is not below a floor. -/
def isRecent (floor : Int) : Json → Bool
  | .number number => number.isWhole && !number.toBinary64.lt (Binary64.ofInt floor)
  | _ => false

/-- Integers that are timestamps. -/
def timestampSchema : Schema :=
  .object
    { description := some "Unix timestamp (likely milliseconds)",
      type := some (.single .integer), format := some "unix-timestamp" }
    {}

/-- Marks integers as timestamps. -/
def timestamps (pattern : Regex) (floor : Int) : Refinement where
  name := "timestamp"
  refine? property schema samples :=
    if pattern.isFoundIn property && schema.isType .integer
        && (observed property samples).all (isRecent floor) then
      some timestampSchema
    else none

end Refinement

end JsonShape
