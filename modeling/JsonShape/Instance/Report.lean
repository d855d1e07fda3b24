import JsonShape.Instance.Location
import JsonShape.Instance.Validation
import JsonShape.Instance.WellFormed
import JsonShape.Json.Reader
import JsonShape.Schema.Writing
import JsonShape.Unicode.Basic

/-!
# Reports on a text

A text is checked against a schema and every error is reported with its place (`Schema.report`). A
text that is blank or no JSON, and a schema that is not well-formed, are reported as errors of the
whole text.
-/

namespace JsonShape

/-- An error in a text. -/
structure InstanceError where
  /-- The pointer of the part that is wrong. -/
  path : String
  message : String
  /-- The line and column of the part, if it was found. -/
  place : Option (Nat × Nat) := none
deriving DecidableEq, Repr

/-- What was found in a text. -/
structure InstanceReport where
  errors : List InstanceError
deriving DecidableEq, Repr

namespace InstanceError

/-- An error of the whole text. -/
def atRoot (message : String) : InstanceError := ⟨"/", message, none⟩

/-- The error of a violation in a text. -/
def ofViolated (text : String) (violated : Violated) : InstanceError :=
  let path := Pointer.ofPath violated.path
  ⟨path, violated.message, Pointer.locate? text path⟩

/-- The error as a JSON value. -/
def toJson (error : InstanceError) : Json :=
  .object
    ([("path", .string error.path), ("message", .string error.message)]
      ++ match error.place with
        | some (line, column) =>
          [("line", .number (.ofInt line)), ("column", .number (.ofInt column))]
        | none => [])

/-- The error as a line of text. -/
def text (error : InstanceError) : String :=
  error.path
    ++ (match error.place with
      | some (line, column) => s!" (line {line}, column {column})"
      | none => "")
    ++ ": " ++ error.message

end InstanceError

namespace InstanceReport

/-- Whether nothing is wrong. -/
def valid (report : InstanceReport) : Bool := report.errors.isEmpty

/-- The report as a JSON value. -/
def toJson (report : InstanceReport) : Json :=
  .object
    [("valid", .bool report.valid), ("errors", .array (report.errors.map InstanceError.toJson))]

/-- The report as lines of text. -/
def text (report : InstanceReport) : String :=
  if report.valid then "Validation successful"
  else
    "".intercalate (report.errors.map fun error => error.text ++ "\n")
      ++ s!"{report.errors.length} error(s)"

end InstanceReport

/-- Check a text against a schema that is given as a JSON value. -/
def Json.report (schema : Json) (text : String) : InstanceReport :=
  if Unicode.isBlank text then ⟨[.atRoot "Empty JSON input"]⟩
  else
    match Json.read text with
    | .error error => ⟨[{ InstanceError.atRoot error.message with
        place := some (error.line, error.column) }]⟩
    | .ok value =>
      -- only a text that is JSON leads to a look at the schema
      match schema.schemaFault? with
      | some fault => ⟨[.atRoot ("Invalid schema: " ++ fault.message)]⟩
      | none => ⟨(schema.violations value).map (InstanceError.ofViolated text)⟩

/-- Check a text against a schema. -/
def Schema.report (schema : Schema) (text : String) : InstanceReport := schema.toJson.report text

end JsonShape
