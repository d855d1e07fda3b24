import JsonShape.Json.Reader
import JsonShape.Json.Skip
import JsonShape.Record.Shape

/-!
# Reading the text of a record

A record is checked while its text is read (`RecordShape.read`), so the first thing that is wrong is
reported, be it in the form of a field or in the text. Unlike in other objects, a field that stands
twice is a mismatch.
-/

namespace JsonShape

/-- What is wrong with the text of a record, while it is read. -/
inductive RecordFault
  | badText (fault : Fault)
  | mismatch (reason : Mismatch)

namespace RecordReader

open Lexeme

/-- A fault of the text. -/
def ofFault {α : Type} : Except Fault α → Except RecordFault α := Except.mapError .badText

/-- A mismatch. -/
def ofMismatch {α : Type} : Except Mismatch α → Except RecordFault α := Except.mapError .mismatch

/-- Read a value without parts. An array or object is not read; what it is goes to the second
function. -/
def scalar (text : List Char) (onScalar : Json → Except Mismatch Json) (expected : String) :
    Except RecordFault (Json × Shorter text) :=
  match next? text with
  | some ('[', _) => .error (.mismatch (.wrongType .array expected))
  | some ('\x7b', _) => .error (.mismatch (.wrongType .object expected))
  | _ =>
    match Reader.value 0 text with
    | .error fault => .error (.badText fault)
    | .ok (value, rest) => (ofMismatch (onScalar value)).map fun value => (value, rest)

/-- Only `null`. -/
def unit : Json → Except Mismatch Json
  | .null => .ok .null
  | value => .error (.wrongType (.ofJson value) "unit")

/-- A name written as a string. -/
def name (names : List String) : Json → Except Mismatch Json
  | .string name => FieldForm.accept (.variant names) (.string name)
  | value => .error (.wrongType (.ofJson value) "variant identifier")

/-- Read one of several names: a string, or an object that has the name as its only member, with the
value `null`. -/
def variant (names : List String) (text : List Char) :
    Except RecordFault (Json × Shorter text) :=
  match next? text with
  | none => .error (.badText (.here .endInValue []))
  | some ('"', _) => scalar text (name names) "variant identifier"
  | some ('\x7b', ⟨start, hs⟩) =>
    match scalar start (name names) "variant identifier" with
    | .error fault => .error fault
    | .ok (found, ⟨rest, hr⟩) =>
      match afterColon rest with
      | .error fault => .error (.badText fault)
      | .ok ⟨content, hc⟩ =>
        match scalar content unit "unit" with
        | .error fault => .error fault
        | .ok (_, ⟨last, hl⟩) =>
          match next? last with
          | some ('\x7d', after) =>
            .ok (found, Shorter.trans ⟨start, hs⟩ (Shorter.trans ⟨rest, hr⟩
              (Shorter.trans ⟨content, hc⟩ (Shorter.trans ⟨last, hl⟩ after))))
          | some (c, ⟨after, _⟩) => .error (.badText (.before .noValue (c :: after)))
          | none => .error (.badText (.here .endInObject []))
  | some (c, ⟨rest, _⟩) => .error (.badText (.here .noValue (c :: rest)))

/-- Read the value of a field of a form. The record itself takes one of the levels of nesting. -/
def field (text : List Char) : FieldForm → Except RecordFault (Json × Shorter text)
  | .text => scalar text (FieldForm.accept .text) "a string"
  | .flag => scalar text (FieldForm.accept .flag) "a boolean"
  | .whole label least most => scalar text (FieldForm.accept (.whole label least most)) label
  | .real => scalar text (FieldForm.accept .real) "f64"
  | .variant names => variant names text
  | .schema =>
    match Reader.value (Reader.depthLimit - 1) text with
    | .error fault => .error (.badText fault)
    | .ok (value, rest) =>
      (ofMismatch (FieldForm.accept .schema value)).map fun value => (value, rest)
  | .optional form =>
    match next? text with
    | some ('n', rest) =>
      (ofFault (word ['u', 'l', 'l'] rest.1)).map fun r => (.null, rest.transNotLonger r)
    | _ => field text form

/-- Read the members of a record up to its closing brace. -/
def members (shape : RecordShape) (given : Members Json) (first : Bool) (text : List Char) :
    Except RecordFault (Members Json × Shorter text) :=
  match nextMember first text with
  | .error fault => .error (.badText fault)
  | .ok (.closed rest) =>
    match shape.missing? given with
    | some mismatch => .error (.mismatch mismatch)
    | none => .ok (given, rest)
  | .ok (.item (name, ⟨rest, hr⟩)) =>
    match shape.field? name with
    | none =>
      match afterColon rest with
      | .error fault => .error (.badText fault)
      | .ok ⟨content, hc⟩ =>
        match Skip.value content with
        | .error fault => .error (.badText fault)
        | .ok ⟨after, ha⟩ =>
          (members shape given false after).map fun (given, r) =>
            (given, Shorter.trans ⟨rest, hr⟩
              (Shorter.trans ⟨content, hc⟩ (Shorter.trans ⟨after, ha⟩ r)))
    | some found =>
      -- the second name is reported before its value is looked at
      if given.contains name then .error (.mismatch (.duplicateField name))
      else
        match afterColon rest with
        | .error fault => .error (.badText fault)
        | .ok ⟨content, hc⟩ =>
          match field content found.form with
          | .error fault => .error fault
          | .ok (value, ⟨after, ha⟩) =>
            (members shape (given ++ [(name, value)]) false after).map fun (given, r) =>
              (given, Shorter.trans ⟨rest, hr⟩
                (Shorter.trans ⟨content, hc⟩ (Shorter.trans ⟨after, ha⟩ r)))
termination_by text.length

/-- Read the end of a record that is written as an array. -/
def closing (text : List Char) : Except RecordFault (Shorter text) :=
  match next? text with
  | none => .error (.badText (.here .endInArray []))
  | some (']', rest) => .ok rest
  | some (c, ⟨rest, _⟩) =>
    if c = ',' then
      match next? rest with
      | some (']', ⟨after, _⟩) => .error (.badText (.here .trailingComma (']' :: after)))
      | some (d, ⟨after, _⟩) => .error (.badText (.here .trailingText (d :: after)))
      | none => .error (.badText (.here .trailingText []))
    else .error (.badText (.here .trailingText (c :: rest)))

/-- Read the fields of a record that is written as an array, from some index on. -/
def elements (shape : RecordShape) (given : Members Json) (index : Nat) (text : List Char) :
    List RecordField → Except RecordFault (Members Json × Shorter text)
  | [] => (closing text).map fun rest => (given, rest)
  | next :: fields =>
    match nextElement (index == 0) text with
    | .error fault => .error (.badText fault)
    | .ok (.closed _) =>
      -- the text is not moved on, so the fields after this one find the array closed as well
      if next.required then .error (.mismatch (.wrongLength index shape.elementCount))
      else elements shape given index text fields
    | .ok (.item start) =>
      match field start.1 next.form with
      | .error fault => .error fault
      | .ok (value, rest) =>
        (elements shape (given ++ [(next.name, value)]) (index + 1) rest.1 fields).map
          fun (given, r) => (given, start.transShorter (rest.trans r))

/-- Read a record. -/
def record (shape : RecordShape) (text : List Char) :
    Except RecordFault (Members Json × Shorter text) :=
  match next? text with
  | some ('[', rest) =>
    (elements shape [] 0 rest.1 shape.fields).map fun (given, r) => (given, rest.trans r)
  | some ('\x7b', rest) =>
    (members shape [] true rest.1).map fun (given, r) => (given, rest.trans r)
  | _ =>
    match Reader.value 0 text with
    | .error fault => .error (.badText fault)
    | .ok (value, _) => .error (.mismatch (.wrongType (.ofJson value) shape.title))

end RecordReader

/-- Why a text is not the record that it should be. -/
inductive RecordError
  | badText (error : SyntaxError)
  | mismatch (reason : Mismatch)

/-- The wording of an error. -/
def RecordError.message : RecordError → String
  | badText error => error.message
  | mismatch reason => reason.message

namespace RecordReader

/-- Read a text with nothing but blanks after what a reader takes. -/
def whole {α : Type} (read : List Char → Except RecordFault (α × List Char)) (text : String) :
    Except RecordError α :=
  let chars := text.toList
  match read chars with
  | .error (.badText fault) => .error (.badText (fault.locate chars))
  | .error (.mismatch reason) => .error (.mismatch reason)
  | .ok (result, rest) =>
    (Reader.trailing? rest).elim (.ok result) fun fault => .error (.badText (fault.locate chars))

end RecordReader

/-- Read the text of a record, with nothing but blanks after it. -/
def RecordShape.read (shape : RecordShape) (text : String) : Except RecordError (Members Json) :=
  RecordReader.whole (fun chars => (RecordReader.record shape chars).map fun (given, rest) =>
    (given, rest.1)) text

end JsonShape
