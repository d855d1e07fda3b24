import JsonShape.Schema.Loading
import JsonShape.Unicode.Visible

/-!
# Shapes of records

A record is an object whose members are fields of known names and forms. Members of other names are
ignored, and a field that is not required may be left out. A record may also be written as an array
of its fields in order. `FieldForm.accept` decides whether a value has the form of a field; what is
wrong otherwise is a `Mismatch`.
-/

namespace JsonShape

/-- The form of a field. -/
inductive FieldForm
  | text
  | flag
  /-- An integer between two bounds, spelled without point or exponent. -/
  | whole (label : String) (least most : Int)
  | real
  /-- One of several names. -/
  | variant (names : List String)
  | schema
  /-- The form, or `null`. -/
  | optional (form : FieldForm)

/-- A field of a record. -/
structure RecordField where
  name : String
  form : FieldForm
  required : Bool := false

/-- The fields of a record, with how the record is called in messages. -/
structure RecordShape where
  title : String
  fields : List RecordField

/-- What stands where something else was expected. -/
inductive Found
  | null
  | flag (value : Bool)
  | number (value : Number)
  | text (value : String)
  | array
  | object

namespace Found

/-- What a value is. -/
def ofJson : Json → Found
  | .null => null
  | .bool value => flag value
  | .number value => number value
  | .string value => text value
  | .array _ => array
  | .object _ => object

/-- The wording for what stands there. -/
def message : Found → String
  | null => "null"
  | flag value => s!"boolean `{value}`"
  | number (.integer value _) => s!"integer `{value}`"
  | number (.real value) => s!"floating point `{Json.floatLayout.text value}`"
  | text value => "string " ++ Unicode.visibleQuote value
  | array => "sequence"
  | object => "map"

end Found

/-- Why a value is not the record that it should be. -/
inductive Mismatch
  | wrongType (found : Found) (expected : String)
  | outOfRange (value : Int) (expected : String)
  | missingField (name : String)
  | duplicateField (name : String)
  | unknownVariant (found : String) (names : List String)
  | wrongLength (count : Nat) (expected : String)
  | notASchema (found : Json)

/-- The wording of a mismatch. -/
def Mismatch.message : Mismatch → String
  | wrongType found expected => s!"invalid type: {found.message}, expected {expected}"
  | outOfRange value expected => s!"invalid value: integer `{value}`, expected {expected}"
  | missingField name => s!"missing field `{name}`"
  | duplicateField name => s!"duplicate field `{name}`"
  | unknownVariant found names =>
    s!"unknown variant `{found}`, expected one of "
      ++ ", ".intercalate (names.map fun name => s!"`{name}`")
  | wrongLength count expected => s!"invalid length {count}, expected {expected}"
  | notASchema found => (SchemaError.notASchema found).message

namespace FieldForm

/-- An unsigned integer of 64 bits. -/
def size : FieldForm := whole "usize" 0 18446744073709551615

/-- The value of a field of a form. Numbers for a real field become binary64 numbers. -/
def accept : FieldForm → Json → Except Mismatch Json
  | text, value =>
    if value.isString then .ok value else .error (.wrongType (.ofJson value) "a string")
  | flag, .bool value => .ok (.bool value)
  | flag, value => .error (.wrongType (.ofJson value) "a boolean")
  | whole label least most, .number (.integer value h) =>
    if least ≤ value ∧ value ≤ most then .ok (.number (.integer value h))
    else .error (.outOfRange value label)
  | whole label _ _, value => .error (.wrongType (.ofJson value) label)
  | real, .number value => .ok (.number (.real value.toBinary64))
  | real, value => .error (.wrongType (.ofJson value) "f64")
  | variant names, .string name =>
    if names.contains name then .ok (.string name) else .error (.unknownVariant name names)
  | variant _, value => .error (.wrongType (.ofJson value) "string or map")
  | schema, value =>
    if (Schema.ofJson? value).isSome then .ok value else .error (.notASchema value)
  | optional _, .null => .ok .null
  | optional form, value => form.accept value

end FieldForm

namespace RecordShape

/-- The field of a name. -/
def field? (shape : RecordShape) (name : String) : Option RecordField :=
  shape.fields.find? fun field => field.name == name

/-- The first field that is required but not given. -/
def missing? (shape : RecordShape) (given : Members Json) : Option Mismatch :=
  (shape.fields.find? fun field => field.required && !given.contains field.name).map fun field =>
    .missingField field.name

/-- The fields that a list of members gives, in the order of the members. -/
def ofMembers (shape : RecordShape) (given : Members Json) :
    Members Json → Except Mismatch (Members Json)
  | [] =>
    match shape.missing? given with
    | some mismatch => .error mismatch
    | none => .ok given
  | (name, value) :: rest =>
    match shape.field? name with
    | none => ofMembers shape given rest
    | some field =>
      match field.form.accept value with
      | .error mismatch => .error mismatch
      | .ok value => ofMembers shape (given ++ [(name, value)]) rest

/-- How a record of too few elements is described. -/
def elementCount (shape : RecordShape) : String :=
  s!"{shape.title} with {shape.fields.length} elements"

/-- The fields that a list of elements gives, from some index on. -/
def ofElements (shape : RecordShape) (given : Members Json) (index : Nat) :
    List RecordField → List Json → Except Mismatch (Members Json)
  | [], [] => .ok given
  | [], rest => .error (.wrongLength (index + rest.length) "fewer elements in array")
  | field :: fields, [] =>
    if field.required then .error (.wrongLength index shape.elementCount)
    else ofElements shape given index fields []
  | field :: fields, value :: rest =>
    match field.form.accept value with
    | .error mismatch => .error mismatch
    | .ok value => ofElements shape (given ++ [(field.name, value)]) (index + 1) fields rest

/-- The fields of a record that a value is. -/
def ofJson (shape : RecordShape) : Json → Except Mismatch (Members Json)
  | .object members => shape.ofMembers [] members
  | .array elements => shape.ofElements [] 0 shape.fields elements
  | value => .error (.wrongType (.ofJson value) shape.title)

end RecordShape

/-! ### Fields of a record that was read -/

namespace Members

/-- The text of a field. -/
def text? (fields : Members Json) (name : String) : Option String :=
  (fields.lookup name).bind Json.string?

/-- The truth value of a field. -/
def flag? (fields : Members Json) (name : String) : Option Bool :=
  match fields.lookup name with
  | some (.bool value) => some value
  | _ => none

/-- The integer of a field. -/
def whole? (fields : Members Json) (name : String) : Option Int :=
  match fields.lookup name with
  | some (.number (.integer value _)) => some value
  | _ => none

/-- The binary64 number of a field. -/
def real? (fields : Members Json) (name : String) : Option Binary64 :=
  match fields.lookup name with
  | some (.number value) => some value.toBinary64
  | _ => none

end Members

end JsonShape
