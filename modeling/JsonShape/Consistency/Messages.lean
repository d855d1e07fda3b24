import JsonShape.Record.Shape

/-!
# Messages for inconsistencies

The wording of each kind of inconsistency is a table that its user may replace in part.
`Messages.fields` names the entries, in the order in which the table is written.
-/

namespace JsonShape

/-- The wording of each kind of inconsistency. -/
structure Messages where
  invalidType : String := "Value has the wrong type"
  intValue : String := "Value must be an integer"
  negativeLength : String := "Value must not be negative"
  positive : String := "Value must be greater than 0"
  stringLengthRange : String := "Minimum length must not exceed maximum length"
  numberMinMax : String := "Minimum and maximum leave no valid value"
  numberBothMin : String := "Use either minimum or exclusiveMinimum, not both"
  numberBothMax : String := "Use either maximum or exclusiveMaximum, not both"
  numberEnumOutOfRange : String := "Allowed values must be numbers within the range"
  arrayMinMax : String := "Minimum items must not exceed maximum items"
  arrayContainsMinMax : String := "Minimum contains must not exceed maximum contains"
  objectMinMax : String := "Minimum properties must not exceed maximum properties"
  falseSchema : String := "Schema does not accept any value"
deriving DecidableEq

namespace Messages

/-- An entry of the table: its name, how to read it and how to replace it. -/
structure Entry where
  name : String
  get : Messages → String
  set : Messages → String → Messages

/-- The entries of the table. -/
def fields : List Entry :=
  [⟨"invalidType", invalidType, fun m s => { m with invalidType := s }⟩,
   ⟨"intValue", intValue, fun m s => { m with intValue := s }⟩,
   ⟨"negativeLength", negativeLength, fun m s => { m with negativeLength := s }⟩,
   ⟨"positive", positive, fun m s => { m with positive := s }⟩,
   ⟨"stringLengthRange", stringLengthRange, fun m s => { m with stringLengthRange := s }⟩,
   ⟨"numberMinMax", numberMinMax, fun m s => { m with numberMinMax := s }⟩,
   ⟨"numberBothMin", numberBothMin, fun m s => { m with numberBothMin := s }⟩,
   ⟨"numberBothMax", numberBothMax, fun m s => { m with numberBothMax := s }⟩,
   ⟨"numberEnumOutOfRange", numberEnumOutOfRange,
     fun m s => { m with numberEnumOutOfRange := s }⟩,
   ⟨"arrayMinMax", arrayMinMax, fun m s => { m with arrayMinMax := s }⟩,
   ⟨"arrayContainsMinMax", arrayContainsMinMax, fun m s => { m with arrayContainsMinMax := s }⟩,
   ⟨"objectMinMax", objectMinMax, fun m s => { m with objectMinMax := s }⟩,
   ⟨"falseSchema", falseSchema, fun m s => { m with falseSchema := s }⟩]

/-- The table as a JSON value. -/
def toJson (messages : Messages) : Json :=
  .object (fields.map fun entry => (entry.name, .string (entry.get messages)))

/-- The shape of a table that is read: every entry may be left out. -/
def shape : RecordShape :=
  { title := "struct ValidationMessages",
    fields := fields.map fun entry => { name := entry.name, form := .text } }

/-- The table with the given entries. -/
def ofFields (given : Members Json) : Messages :=
  fields.foldl (fun messages entry => (given.text? entry.name).elim messages (entry.set messages))
    {}

end Messages

end JsonShape
