import JsonShape.Json.Lexeme

/-!
# Between the items of arrays and objects

An array or object that is open goes on with another item or is closed (`Continuation`). What stands
between two items, and what is wrong there, is the same whatever is done with the items.
-/

namespace JsonShape

/-- How an open array or object goes on: with the text after its closing bracket, or with the text
at which its next item begins. -/
inductive Continuation (α : Type) (text : List Char)
  | closed (rest : Shorter text)
  | item (next : α)

namespace Lexeme

/-- How an array goes on, at its start or after an element. -/
def nextElement (first : Bool) (text : List Char) :
    Except Fault (Continuation (NotLonger text) text) :=
  match next? text with
  | none => .error (.here .endInArray [])
  | some (']', rest) => .ok (.closed rest)
  | some (c, ⟨rest, hr⟩) =>
    if first then .ok (.item (.refl text))
    else if c = ',' then
      match next? rest with
      | some (']', ⟨after, _⟩) => .error (.here .trailingComma (']' :: after))
      | none => .error (.here .endInValue [])
      | some _ => .ok (.item (Shorter.notLonger ⟨rest, hr⟩))
    else .error (.here .noCommaInArray (c :: rest))

/-- The name of a member after its opening quote. -/
def memberName {text : List Char} (quoted : Shorter text) :
    Except Fault (Continuation (String × Shorter text) text) :=
  (string quoted.1).map fun (name, rest) => .item (String.ofList name, quoted.trans rest)

/-- How an object goes on, at its start or after a member: the next item is the name of a member. -/
def nextMember (first : Bool) (text : List Char) :
    Except Fault (Continuation (String × Shorter text) text) :=
  match next? text with
  | none => .error (.here .endInObject [])
  | some ('\x7d', rest) => .ok (.closed rest)
  | some (c, ⟨rest, hr⟩) =>
    if first then
      if c = '"' then memberName ⟨rest, hr⟩ else .error (.here .keyNotString (c :: rest))
    else if c = ',' then
      match next? rest with
      | some ('"', after) => memberName (Shorter.trans ⟨rest, hr⟩ after)
      | some ('\x7d', ⟨after, _⟩) => .error (.here .trailingComma ('\x7d' :: after))
      | some (d, ⟨after, _⟩) => .error (.here .keyNotString (d :: after))
      | none => .error (.here .endInValue [])
    else .error (.here .noCommaInObject (c :: rest))

/-- What follows the colon after the name of a member. -/
def afterColon (text : List Char) : Except Fault (Shorter text) :=
  match next? text with
  | none => .error (.here .endInObject [])
  | some (':', rest) => .ok rest
  | some (c, ⟨rest, _⟩) => .error (.here .noColon (c :: rest))

end Lexeme

end JsonShape
