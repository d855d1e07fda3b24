import JsonShape.Schema.Loading

/-!
# Reading the text of a schema

In `Schema.read` and `Items.read`, a value that is no schema is reported before what may be wrong
with the text after it.
-/

namespace JsonShape

/-- Why a text is not the value of `items`. -/
inductive ItemsError
  | badText (error : SyntaxError)
  | noItems

/-- The wording of an error. -/
def ItemsError.message : ItemsError → String
  | badText error => error.message
  | noItems => "data did not match any variant of untagged enum Items"

/-- The value of `items` that a JSON value is: a list of schemas, or one schema. -/
def Items.ofJson? : Json → Option (Items Schema)
  | .array values => (Schema.listOf? values).map .tuple
  | value => (Schema.ofJson? value).map .single

/-- Read a text with a value that is used in some way; the use may fail. -/
def readWith {α ε : Type} (use : Json → Except ε α) (badText : SyntaxError → ε) (text : String) :
    Except ε α :=
  let chars := text.toList
  match Reader.value Reader.depthLimit chars with
  | .error fault => .error (badText (fault.locate chars))
  | .ok (value, ⟨rest, _⟩) =>
    match use value with
    | .error error => .error error
    | .ok result =>
      (Reader.trailing? rest).elim (.ok result) fun fault => .error (badText (fault.locate chars))

/-- Read the text of a schema. -/
def Schema.read (text : String) : Except SchemaError Schema := readWith Schema.ofJson .badText text

/-- Read the text of a value of `items`. -/
def Items.read (text : String) : Except ItemsError (Items Schema) :=
  readWith (fun value => (Items.ofJson? value).elim (.error .noItems) .ok) .badText text

end JsonShape
