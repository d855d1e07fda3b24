import JsonShape.Json.Reader
import JsonShape.Json.Printer
import JsonShape.Schema.Basic

/-!
# Loading a schema from JSON

Every boolean and every object is a schema. A keyword goes into its field if its value has the form
of the field; otherwise it is a misfit and is kept, as a keyword without a field is, in
`Facets.extra`: first the keywords without a field, then the misfits, each group in the order of the
text (`Schema.ofJson`).

The functions that load recurse on the size of what they are given. `Schema.place?` may hand its
value on as it is, so the measure doubles the size and adds one there.
-/

namespace JsonShape

/-- The type names of a list, if all of them are known. -/
def TypeName.listOf? : List Json → Option (List TypeName)
  | [] => some []
  | .string name :: rest => do return (← ofName? name) :: (← listOf? rest)
  | _ => none

/-- The value of the `type` keyword: a string or a list of strings. -/
def TypeSpec.ofJson? : Json → Option TypeSpec
  | .string name => some ((TypeName.ofName? name).elim (.other (.string name)) .single)
  | .array names =>
    if names.all Json.isString then
      some ((TypeName.listOf? names).elim (.other (.array names)) .several)
    else none
  | _ => none

/-- The strings of a list that holds nothing else. -/
def Json.stringList? : List Json → Option (List String)
  | [] => some []
  | .string text :: rest => (stringList? rest).map (text :: ·)
  | _ => none

/-- Put a value into the field of a keyword without sub-schemas, if it has the form of that field.
-/
def Facets.set? (facets : Facets) : Keyword → Json → Option Facets
  | .text keyword, .string text => some (facets.setText text keyword)
  | .number keyword, .number number => some (facets.setNumber number keyword)
  | .type, value => (TypeSpec.ofJson? value).map fun type => { facets with type := some type }
  | .required, .array names =>
    (Json.stringList? names).map fun names => { facets with required := some names }
  | .uniqueItems, .bool flag => some { facets with uniqueItems := some flag }
  | .choices, .array values => some { facets with choices := some values }
  | _, _ => none

namespace Schema

mutual

/-- The schema that a value is. -/
def ofJson? : Json → Option Schema
  | .bool accepts => some (.boolean accepts)
  | .object members => some (ofMembers members {} {} [])
  | _ => none
termination_by value => 2 * sizeOf value

/-- The schemas in a list of nothing else. -/
def listOf? : List Json → Option (List Schema)
  | [] => some []
  | value :: rest =>
    match ofJson? value, listOf? rest with
    | some schema, some schemas => some (schema :: schemas)
    | _, _ => none
termination_by values => 2 * sizeOf values

/-- The named schemas in an object of nothing else. -/
def mapOf? : List (String × Json) → Option (List (String × Schema))
  | [] => some []
  | (name, value) :: rest =>
    match ofJson? value, mapOf? rest with
    | some schema, some schemas => some ((name, schema) :: schemas)
    | _, _ => none
termination_by members => 2 * sizeOf members

/-- Put a value into the field of a keyword, if it has the form of that field. -/
def place? (keyword : Keyword) (value : Json) (facets : Facets) (parts : Parts Schema) :
    Option (Facets × Parts Schema) :=
  match keyword with
  | .map keyword =>
    match value with
    | .object members => (mapOf? members).map fun schemas => (facets, parts.setMap schemas keyword)
    | _ => none
  | .list keyword =>
    match value with
    | .array values => (listOf? values).map fun schemas => (facets, parts.setList schemas keyword)
    | _ => none
  | .single keyword => (ofJson? value).map fun schema => (facets, parts.setSingle schema keyword)
  | .items =>
    match value with
    | .array values =>
      (listOf? values).map fun schemas => (facets, { parts with items := some (.tuple schemas) })
    | .object members =>
      some (facets, { parts with items := some (.single (ofMembers members {} {} [])) })
    | .bool accepts => some (facets, { parts with items := some (.single (.boolean accepts)) })
    | _ => none
  | keyword => (facets.set? keyword value).map fun facets => (facets, parts)
termination_by 2 * sizeOf value + 1

/-- Read the members of a schema on top of the facets, parts and misfits read so far. -/
def ofMembers (members : List (String × Json)) (facets : Facets) (parts : Parts Schema)
    (misfits : Members Json) : Schema :=
  match members with
  | [] => .object { facets with extra := facets.extra ++ misfits } parts
  | (name, value) :: rest =>
    match Keyword.ofName? name with
    | none => ofMembers rest { facets with extra := facets.extra ++ [(name, value)] } parts misfits
    | some keyword =>
      match place? keyword value facets parts with
      | some (facets, parts) => ofMembers rest facets parts misfits
      -- a misfit waits until the keywords without a field are all in place
      | none => ofMembers rest facets parts (misfits ++ [(name, value)])
termination_by 2 * sizeOf members

end

end Schema

/-- Why a text is not a schema. -/
inductive SchemaError
  | badText (error : SyntaxError)
  | notASchema (found : Json)

/-- The wording of an error. -/
def SchemaError.message : SchemaError → String
  | badText error => error.message
  | notASchema found => "expected a boolean or object schema, found " ++ found.compact

namespace Schema

/-- The schema that a value is, or the error that it is none. -/
def ofJson (value : Json) : Except SchemaError Schema :=
  match ofJson? value with
  | some schema => .ok schema
  | none => .error (.notASchema value)

end Schema

end JsonShape
