import JsonShape.Binary64.Layout
import JsonShape.Json.Basic

/-!
# JSON text of a value

There are two texts: a compact one without blanks (`Json.compact`), and an indented one with two
spaces for each level, in which an empty array or object stays on its line (`Json.pretty`). Both
keep the order of members.
-/

namespace JsonShape

namespace Json

/-- Numbers are positional from `10 ^ (-5)` up to `10 ^ 16`, and a non-negative exponent has a sign.
-/
def floatLayout : FloatLayout := ⟨-5, 16, "+"⟩

/-- The text of a number. -/
def numberText : Number → String
  | .integer value _ => toString value
  | .real value => floatLayout.text value

/-- The hexadecimal digit of a value below sixteen. -/
def hexDigit (n : Nat) : Char :=
  if n < 10 then Char.ofNat (48 + n) else Char.ofNat (87 + n)

/-- The spelling of a character inside a string. -/
def escape (c : Char) : List Char :=
  match c with
  | '"' => ['\\', '"']
  | '\\' => ['\\', '\\']
  | '\x08' => ['\\', 'b']
  | '\x0c' => ['\\', 'f']
  | '\n' => ['\\', 'n']
  | '\r' => ['\\', 'r']
  | '\t' => ['\\', 't']
  | c =>
    if c.toNat < 32 then ['\\', 'u', '0', '0', hexDigit (c.toNat / 16), hexDigit (c.toNat % 16)]
    else [c]

/-- A string in quotes. -/
def quote (s : String) : String := "\"" ++ String.ofList (s.toList.flatMap escape) ++ "\""

mutual

/-- The text without blanks. -/
def compact : Json → String
  | null => "null"
  | bool true => "true"
  | bool false => "false"
  | number n => numberText n
  | string s => quote s
  | array elements => "[" ++ ",".intercalate (compactElements elements) ++ "]"
  | object members => "\x7b" ++ ",".intercalate (compactMembers members) ++ "\x7d"

/-- The texts of the elements. -/
def compactElements : List Json → List String
  | [] => []
  | value :: rest => compact value :: compactElements rest

/-- The texts of the members. -/
def compactMembers : List (String × Json) → List String
  | [] => []
  | (name, value) :: rest => (quote name ++ ":" ++ compact value) :: compactMembers rest

end

/-- A line break followed by the indentation of a level. -/
def newline (level : Nat) : String := "\n" ++ "".pushn ' ' (2 * level)

/-- Items between brackets, each on a line of its own; no items leave the brackets side by side. -/
def bracket (left right : String) (level : Nat) (items : List String) : String :=
  if items.isEmpty then left ++ right
  else left ++ newline (level + 1) ++ ("," ++ newline (level + 1)).intercalate items
    ++ newline level ++ right

mutual

/-- The indented text of a value that stands at a level. -/
def prettyAt (level : Nat) : Json → String
  | array elements => bracket "[" "]" level (prettyElements (level + 1) elements)
  | object members => bracket "\x7b" "\x7d" level (prettyMembers (level + 1) members)
  | value => compact value

/-- The indented texts of the elements. -/
def prettyElements (level : Nat) : List Json → List String
  | [] => []
  | value :: rest => prettyAt level value :: prettyElements level rest

/-- The indented texts of the members. -/
def prettyMembers (level : Nat) : List (String × Json) → List String
  | [] => []
  | (name, value) :: rest =>
    (quote name ++ ": " ++ prettyAt level value) :: prettyMembers level rest

end

/-- The indented text. -/
def pretty (value : Json) : String := prettyAt 0 value

end Json

end JsonShape
