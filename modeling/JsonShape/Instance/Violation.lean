import JsonShape.Json.Printer
import JsonShape.Schema.Basic

/-!
# Violations of a schema

A violation says which part of a value a schema does not accept, and why (`Violated`). The part is
named by the keys and indices that lead to it, and written as a pointer: each key after a slash,
with slashes and tildes in keys escaped (`Pointer.ofPath`).
-/

namespace JsonShape

/-- The two ways of combining schemas of which one has to accept. -/
inductive Combination
  | oneOf | anyOf
deriving DecidableEq, Repr

/-- The keyword of a combination. -/
def Combination.name : Combination → String
  | oneOf => "oneOf"
  | anyOf => "anyOf"

/-- What is counted in a value. -/
inductive Counted
  | characters | items | properties
deriving DecidableEq, Repr

/-- Why a value is not accepted. Numbers and counts stand for the limits that were not kept. -/
inductive Reason
  | falseSchema
  | wrongType (expected : List TypeName)
  | missing (name : String)
  | belowMinimum (limit : Number)
  | aboveMaximum (limit : Number)
  | notAbove (limit : Number)
  | notBelow (limit : Number)
  | notMultiple (divisor : Number)
  | tooFew (counted : Counted) (limit : Nat)
  | tooMany (counted : Counted) (limit : Nat)
  | repeated
  | notListed (choices : List Json)
  | notEqual (expected : Json)
  | noneAccept (combination : Combination)
  | severalAccept
  | forbidden (schema : Json)
  | unexpected (names : List String)

namespace Reason

/-- A text, with an ending if there is more than one. -/
def plural (count : Nat) (one many : String) : String := if count = 1 then one else many

/-- How many things there are. -/
def Counted.text (count : Nat) : Counted → String
  | .characters => s!"{count} " ++ plural count "character" "characters"
  | .items => s!"{count} " ++ plural count "item" "items"
  | .properties => s!"{count} " ++ plural count "property" "properties"

/-- How many listed values are shown before the others are only counted. -/
def shownChoices : Nat := 2

/-- The listed values. The last one follows a word; if there is more than one beyond those that are
shown, their number stands in its place. -/
def choicesText (choices : List Json) : String :=
  let texts := choices.map Json.compact
  if texts.length ≤ shownChoices + 1 then
    match texts.reverse with
    | [] => ""
    | [text] => text
    | last :: rest => ", ".intercalate rest.reverse ++ " or " ++ last
  else
    ", ".intercalate (texts.take shownChoices)
      ++ s!" or {texts.length - shownChoices} other candidates"

/-- The wording of a reason for which a value is not accepted. -/
def message (value : Json) : Reason → String
  | falseSchema => s!"False schema does not allow {value.compact}"
  | wrongType [type] => s!"{value.compact} is not of type " ++ Json.quote type.name
  | wrongType types =>
    s!"{value.compact} is not of types "
      ++ ", ".intercalate (types.map fun type => Json.quote type.name)
  | missing name => Json.quote name ++ " is a required property"
  | belowMinimum limit =>
    s!"{value.compact} is less than the minimum of {Json.numberText limit}"
  | aboveMaximum limit =>
    s!"{value.compact} is greater than the maximum of {Json.numberText limit}"
  | notAbove limit =>
    s!"{value.compact} is less than or equal to the minimum of {Json.numberText limit}"
  | notBelow limit =>
    s!"{value.compact} is greater than or equal to the maximum of {Json.numberText limit}"
  | notMultiple divisor => s!"{value.compact} is not a multiple of {Json.numberText divisor}"
  | tooFew .characters limit =>
    s!"{value.compact} is shorter than " ++ Counted.text limit .characters
  | tooMany .characters limit =>
    s!"{value.compact} is longer than " ++ Counted.text limit .characters
  | tooFew counted limit => s!"{value.compact} has less than " ++ Counted.text limit counted
  | tooMany counted limit => s!"{value.compact} has more than " ++ Counted.text limit counted
  | repeated => s!"{value.compact} has non-unique elements"
  | notListed choices => s!"{value.compact} is not one of " ++ choicesText choices
  | notEqual expected => s!"{expected.compact} was expected"
  | noneAccept combination =>
    s!"{value.compact} is not valid under any of the schemas listed in the "
      ++ s!"'{combination.name}' keyword"
  | severalAccept =>
    s!"{value.compact} is valid under more than one of the schemas listed in the 'oneOf' keyword"
  | forbidden schema => s!"{schema.compact} is not allowed for {value.compact}"
  | unexpected names =>
    "Additional properties are not allowed ("
      ++ ", ".intercalate (names.map fun name => s!"'{name}'")
      ++ plural names.length " was unexpected)" " were unexpected)"

end Reason

/-- A part of a value that is not accepted. -/
structure Violated where
  path : List String
  value : Json
  reason : Reason

namespace Violated

/-- A violation by a value itself. -/
def here (value : Json) (reason : Reason) : Violated := ⟨[], value, reason⟩

/-- The violation as one of the value that holds this part under a key. -/
def under (key : String) (violated : Violated) : Violated :=
  { violated with path := key :: violated.path }

/-- The wording of a violation. -/
def message (violated : Violated) : String := violated.reason.message violated.value

end Violated

/-! ### Pointers -/

namespace Pointer

/-- The spelling of a character of a key. -/
def escapeChar : Char → List Char
  | '~' => ['~', '0']
  | '/' => ['~', '1']
  | c => [c]

/-- The spelling of a key. -/
def escape (key : String) : String := String.ofList (key.toList.flatMap escapeChar)

/-- The pointer of a path. -/
def ofPath (path : List String) : String :=
  if path.isEmpty then "/" else "".intercalate (path.map fun key => "/" ++ escape key)

end Pointer

end JsonShape
