import JsonShape.Binary64.Extended
import JsonShape.Consistency.Messages
import JsonShape.Schema.Basic

/-!
# Rules for the keywords of a type

Each of the types string, number, array and object has rules for the keywords that matter to it; a
schema of another type, or of none, always passes. A rule that fails is a `Violation`, which knows
the keyword or rule it is about; its wording comes from a `Messages` table only when it is
made into an `Issue`.

A lower and an upper bound are consistent if the lower one does not exceed the upper one and, where
a bound is exclusive, the bounds lie far enough apart for a whole number: at least one unit for one
exclusive bound, two for two. The distance is a binary64 difference. A missing bound, or one that is
undefined, never conflicts.
-/

namespace JsonShape

/-- What is inconsistent about a schema. -/
inductive Violation
  /-- The value of a keyword does not have the form of its field. -/
  | invalidType (keyword : Keyword)
  /-- A count is not a whole number. -/
  | notWhole (keyword : NumberKeyword)
  /-- A count is negative. -/
  | negative (keyword : NumberKeyword)
  /-- The divisor is not positive. -/
  | notPositive
  | lengthRange
  | numberRange
  /-- There are an inclusive and an exclusive lower bound. -/
  | redundantMinimum
  /-- There are an inclusive and an exclusive upper bound. -/
  | redundantMaximum
  /-- A listed value is not a number within the bounds. -/
  | choiceOutOfRange
  | itemRange
  | containsRange
  | propertyRange
  /-- The schema is `false`. -/
  | falseSchema
deriving DecidableEq, Repr

namespace Violation

/-- The keyword or rule a violation is about. -/
def tag? : Violation → Option String
  | invalidType keyword => some keyword.name
  | notWhole keyword => some (Keyword.number keyword).name
  | negative keyword => some (Keyword.number keyword).name
  | notPositive => some "multipleOf"
  | lengthRange => some "length"
  | numberRange => some "minMax"
  | redundantMinimum => some "redundantMinimum"
  | redundantMaximum => some "redundantMaximum"
  | choiceOutOfRange => some "enum"
  | itemRange => some "minmax"
  | containsRange => some "minmaxContains"
  | propertyRange => some "minmax"
  | falseSchema => none

/-- The wording of a violation. -/
def message (messages : Messages) : Violation → String
  | invalidType _ => messages.invalidType
  | notWhole _ => messages.intValue
  | negative _ => messages.negativeLength
  | notPositive => messages.positive
  | lengthRange => messages.stringLengthRange
  | numberRange => messages.numberMinMax
  | redundantMinimum => messages.numberBothMin
  | redundantMaximum => messages.numberBothMax
  | choiceOutOfRange => messages.numberEnumOutOfRange
  | itemRange => messages.arrayMinMax
  | containsRange => messages.arrayContainsMinMax
  | propertyRange => messages.objectMinMax
  | falseSchema => messages.falseSchema

end Violation

/-- A violation as it is reported. -/
structure Issue where
  message : String
  tag : Option String
deriving DecidableEq, Repr

/-- The report of a violation. -/
def Violation.issue (messages : Messages) (violation : Violation) : Issue :=
  ⟨violation.message messages, violation.tag?⟩

/-- Whether two bounds, each inclusive or exclusive, leave room for a value. -/
def rangeConsistent (min : Option Extended) (minExclusive : Bool) (max : Option Extended)
    (maxExclusive : Bool) : Bool :=
  match min, max with
  | some low, some high =>
    let below (distance : Int) := (high.sub low).lt (.finite (Binary64.ofInt distance))
    !high.lt low && !(minExclusive && maxExclusive && below 2)
      && !((minExclusive || maxExclusive) && below 1)
  | _, _ => true

namespace Facets

variable (facets : Facets)

/-- The number of a keyword as binary64. -/
def bound? (keyword : NumberKeyword) : Option Binary64 :=
  (facets.number? keyword).map Number.toBinary64

/-- The keywords among the given ones whose values do not have the form of their fields. -/
def misfits (keywords : List Keyword) : List Violation :=
  (keywords.filter facets.isMisfit).map .invalidType

/-- What is wrong with a count, which has to be whole and must not be negative. -/
def countViolations (keyword : NumberKeyword) : List Violation :=
  match facets.number? keyword with
  | none => []
  | some number =>
    (if number.isWhole then [] else [.notWhole keyword])
      ++ (if number.toBinary64.units < 0 then [.negative keyword] else [])

/-- Whether a lower and an upper keyword are consistent. -/
def consistent (min : NumberKeyword) (minExclusive : Bool) (max : NumberKeyword)
    (maxExclusive : Bool) : Bool :=
  rangeConsistent ((facets.bound? min).map .finite) minExclusive
    ((facets.bound? max).map .finite) maxExclusive

/-- The violation of a pair of counts of which the lower exceeds the upper. -/
def rangeViolation (min max : NumberKeyword) (violation : Violation) : List Violation :=
  if facets.consistent min false max false then [] else [violation]

/-- The rules for strings. -/
def stringViolations : List Violation :=
  facets.misfits [.number .minLength, .number .maxLength, .text .pattern, .text .format]
    ++ facets.countViolations .minLength ++ facets.countViolations .maxLength
    ++ facets.rangeViolation .minLength .maxLength .lengthRange

/-- Whether a value is a number within the bounds. -/
def choiceInRange (value : Json) : Bool :=
  match value with
  | .number number =>
    let x := number.toBinary64
    (facets.bound? .minimum).all (fun low => !x.lt low)
      && (facets.bound? .maximum).all (fun high => !high.lt x)
      && (facets.bound? .exclusiveMinimum).all (fun low => low.lt x)
      && (facets.bound? .exclusiveMaximum).all (fun high => x.lt high)
  | _ => false

/-- Whether each lower bound is consistent with each upper one. -/
def boundsConsistent : Bool :=
  facets.consistent .minimum false .maximum false
    && facets.consistent .minimum false .exclusiveMaximum true
    && facets.consistent .exclusiveMinimum true .maximum false
    && facets.consistent .exclusiveMinimum true .exclusiveMaximum true

/-- The rules for numbers. -/
def numberViolations : List Violation :=
  facets.misfits [.number .minimum, .number .maximum, .number .exclusiveMinimum,
      .number .exclusiveMaximum, .number .multipleOf, .choices]
    ++ (if (facets.bound? .multipleOf).any (fun x => decide (x.units ≤ 0)) then [.notPositive]
        else [])
    ++ (if facets.boundsConsistent then [] else [.numberRange])
    ++ (if facets.minimum.isSome && facets.exclusiveMinimum.isSome then [.redundantMinimum] else [])
    ++ (if facets.maximum.isSome && facets.exclusiveMaximum.isSome then [.redundantMaximum] else [])
    ++ (if facets.choices.all (·.all facets.choiceInRange) then [] else [.choiceOutOfRange])

/-- The rules for arrays. -/
def arrayViolations : List Violation :=
  facets.misfits [.number .minItems, .number .maxItems, .number .minContains, .number .maxContains,
      .uniqueItems]
    ++ facets.countViolations .minItems ++ facets.countViolations .maxItems
    ++ facets.countViolations .minContains ++ facets.countViolations .maxContains
    ++ facets.rangeViolation .minItems .maxItems .itemRange
    ++ facets.rangeViolation .minContains .maxContains .containsRange

/-- The rules for objects. -/
def objectViolations : List Violation :=
  facets.misfits [.number .minProperties, .number .maxProperties, .required]
    ++ facets.countViolations .minProperties ++ facets.countViolations .maxProperties
    ++ facets.rangeViolation .minProperties .maxProperties .propertyRange

/-- The violations of the rules for a type. -/
def violations (type : Option TypeName) : List Violation :=
  match type with
  | some .string => facets.stringViolations
  | some .number => facets.numberViolations
  | some .array => facets.arrayViolations
  | some .object => facets.objectViolations
  | _ => []

end Facets

end JsonShape
