import JsonShape.Record.Reader

/-!
# Reading maps of schemas and lists of values

Texts of which the outermost form is fixed: an object whose members are schemas (`Schema.readMap`),
or an array of any values (`Json.readList`). As in a record, the first thing that is wrong is
reported, be it a value that is no schema or the text itself.
-/

namespace JsonShape

namespace RecordReader

open Lexeme

/-- A value that is read although something else is expected. -/
def unexpected {α : Type} (text : List Char) (expected : String) : Except RecordFault α :=
  match next? text with
  | some ('[', _) => .error (.mismatch (.wrongType .array expected))
  | some ('\x7b', _) => .error (.mismatch (.wrongType .object expected))
  | _ =>
    match Reader.value 0 text with
    | .error fault => .error (.badText fault)
    | .ok (value, _) => .error (.mismatch (.wrongType (.ofJson value) expected))

/-- Read the members of an object of schemas up to its closing brace. -/
def schemaMembers (given : Members Schema) (first : Bool) (text : List Char) :
    Except RecordFault (Members Schema × List Char) :=
  match nextMember first text with
  | .error fault => .error (.badText fault)
  | .ok (.closed rest) => .ok (given, rest.1)
  | .ok (.item (name, ⟨rest, _⟩)) =>
    match afterColon rest with
    | .error fault => .error (.badText fault)
    | .ok ⟨content, _⟩ =>
      match Reader.value (Reader.depthLimit - 1) content with
      | .error fault => .error (.badText fault)
      | .ok (value, ⟨after, _⟩) =>
        match Schema.ofJson? value with
        | none => .error (.mismatch (.notASchema value))
        | some schema => schemaMembers (given.insert name schema) false after
termination_by text.length

/-- Read an object of schemas. A name that is repeated keeps its first place and takes its last
schema. -/
def schemaMap (text : List Char) : Except RecordFault (Members Schema × List Char) :=
  match next? text with
  | some ('\x7b', ⟨rest, _⟩) => schemaMembers [] true rest
  | _ => unexpected text "a map"

/-- Read an array. -/
def valueList (text : List Char) : Except RecordFault (List Json × List Char) :=
  match next? text with
  | some ('[', ⟨rest, _⟩) =>
    match Reader.elements (Reader.depthLimit - 1) true rest with
    | .error fault => .error (.badText fault)
    | .ok (values, ⟨after, _⟩) => .ok (values, after)
  | _ => unexpected text "a sequence"

end RecordReader

/-- Read the text of an object of schemas. -/
def Schema.readMap (text : String) : Except RecordError (Members Schema) :=
  RecordReader.whole RecordReader.schemaMap text

/-- Read the text of an array. -/
def Json.readList (text : String) : Except RecordError (List Json) :=
  RecordReader.whole RecordReader.valueList text

end JsonShape
