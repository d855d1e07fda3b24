import JsonShape.Instance.Violation

/-!
# Finding a pointer in a text

The place of a part in a text is guessed (`Pointer.locate?`): it is that of the last key of its
pointer, in quotes, in the first line that holds it. The whole text begins at the first line and
column.
-/

namespace JsonShape

namespace Pointer

/-- Replace each occurrence of a pair of characters by one character, from left to right. -/
def replacePair (first second result : Char) : List Char → List Char
  | [] => []
  | [c] => [c]
  | c :: d :: rest =>
    if c = first ∧ d = second then result :: replacePair first second result rest
    else c :: replacePair first second result (d :: rest)

/-- The key that a segment of a pointer spells. -/
def unescape (segment : List Char) : List Char :=
  replacePair '~' '0' '~' (replacePair '~' '1' '/' segment)

/-- The last segment of a pointer that is not empty. -/
def lastSegment? (pointer : String) : Option (List Char) :=
  match ((pointer.toList.reverse.dropWhile (· == '/')).takeWhile (· != '/')).reverse with
  | [] => none
  | segment => some segment

/-- How many characters of a text stand before the first occurrence of another one. -/
def offset? (needle : List Char) : List Char → Option Nat
  | [] => if needle.isEmpty then some 0 else none
  | c :: rest =>
    if needle.isPrefixOf (c :: rest) then some 0 else (offset? needle rest).map (· + 1)

/-- The lines of a text, without what ends them: a line feed that may follow a carriage return. -/
def lines : List Char → List (List Char)
  | [] => []
  | '\n' :: rest => [] :: lines rest
  | '\r' :: '\n' :: rest => [] :: lines rest
  | c :: rest =>
    match lines rest with
    | [] => [[c]]
    | line :: more => (c :: line) :: more

/-- The first line that holds a text, and the column where the text begins, counted from a line
number. -/
def find? (needle : List Char) : (number : Nat) → List (List Char) → Option (Nat × Nat)
  | _, [] => none
  | number, line :: rest =>
    match offset? needle line with
    | some offset => some (number, offset + 1)
    | none => find? needle (number + 1) rest

/-- The line and column of a pointer in a text. -/
def locate? (text pointer : String) : Option (Nat × Nat) :=
  match lastSegment? pointer with
  | none => some (1, 1)
  | some segment => find? ('"' :: unescape segment ++ ['"']) 1 (lines text.toList)

end Pointer

end JsonShape
