import JsonShape.Json.Punctuation

/-!
# Reading JSON text

`Json.read` reads one value with nothing but blanks after it. Arrays and objects may be nested up to
127 deep. A member name that is repeated keeps its first place and takes its last value.

The readers of values, elements and members recurse on the rest of the text, which every step makes
shorter. The reader of elements may hand its whole text to the reader of values, so the measure
doubles the length and adds one for elements and members.
-/

namespace JsonShape

namespace Reader

open Lexeme

/-- How many arrays and objects may be open at once. -/
def depthLimit : Nat := 127

mutual

/-- Read a value that may have leading blanks, with `depth` more levels of nesting left. -/
def value (depth : Nat) (text : List Char) : Except Fault (Json × Shorter text) :=
  match next? text with
  | none => .error (.here .endInValue [])
  | some (c, ⟨rest, h⟩) =>
    let read : Except Fault (Json × NotLonger rest) :=
      if c = 'n' then (word ['u', 'l', 'l'] rest).map fun r => (.null, r)
      else if c = 't' then (word ['r', 'u', 'e'] rest).map fun r => (.bool true, r)
      else if c = 'f' then (word ['a', 'l', 's', 'e'] rest).map fun r => (.bool false, r)
      else if c = '-' then (number true rest).map fun (n, r) => (.number n, r.notLonger)
      else if c.isDigit then (number false (c :: rest)).map fun (n, r) => (.number n, r.ofCons)
      else if c = '"' then
        (string rest).map fun (cs, r) => (.string (String.ofList cs), r.notLonger)
      else if c = '[' then
        match depth with
        | 0 => .error (.here .tooDeep (c :: rest))
        | depth + 1 => (elements depth true rest).map fun (vs, r) => (.array vs, r.notLonger)
      else if c = '\x7b' then
        match depth with
        | 0 => .error (.here .tooDeep (c :: rest))
        | depth + 1 =>
          (members depth true rest).map fun (ms, r) =>
            (.object (Members.ofEntries ms), r.notLonger)
      else .error (.here .noValue (c :: rest))
    read.map fun (v, r) => (v, Shorter.transNotLonger ⟨rest, h⟩ r)
termination_by 2 * text.length

/-- Read the elements of an array up to its closing bracket. -/
def elements (depth : Nat) (first : Bool) (text : List Char) :
    Except Fault (List Json × Shorter text) :=
  match nextElement first text with
  | .error fault => .error fault
  | .ok (.closed rest) => .ok ([], rest)
  | .ok (.item ⟨start, hs⟩) =>
    match value depth start with
    | .error fault => .error fault
    | .ok (v, ⟨rest, hr⟩) =>
      (elements depth false rest).map fun (vs, r) =>
        (v :: vs, NotLonger.transShorter ⟨start, hs⟩ (Shorter.trans ⟨rest, hr⟩ r))
termination_by 2 * text.length + 1

/-- Read the members of an object up to its closing brace. -/
def members (depth : Nat) (first : Bool) (text : List Char) :
    Except Fault (List (String × Json) × Shorter text) :=
  match nextMember first text with
  | .error fault => .error fault
  | .ok (.closed rest) => .ok ([], rest)
  | .ok (.item (name, ⟨rest, hr⟩)) =>
    match afterColon rest with
    | .error fault => .error fault
    | .ok ⟨start, hs⟩ =>
      match value depth start with
      | .error fault => .error fault
      | .ok (v, ⟨after, ha⟩) =>
        (members depth false after).map fun (ms, r) =>
          ((name, v) :: ms,
            Shorter.trans ⟨rest, hr⟩ (Shorter.trans ⟨start, hs⟩ (Shorter.trans ⟨after, ha⟩ r)))
termination_by 2 * text.length + 1

end

/-- The fault of a text that should hold nothing but blanks. -/
def trailing? (rest : List Char) : Option Fault :=
  match skipBlanks rest with
  | [] => none
  | c :: after => some (.here .trailingText (c :: after))

/-- Read a value and require that only blanks follow it. -/
def readChars (text : List Char) : Except Fault Json :=
  match value depthLimit text with
  | .error fault => .error fault
  | .ok (v, ⟨rest, _⟩) => (trailing? rest).elim (.ok v) .error

end Reader

/-- Read a JSON text. -/
def Json.read (text : String) : Except SyntaxError Json :=
  (Reader.readChars text.toList).mapError (·.locate text.toList)

end JsonShape
