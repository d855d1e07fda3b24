import JsonShape.Json.Basic
import JsonShape.Yaml.Scalar

/-!
# YAML text of a value

Objects and arrays are written as blocks (`Yaml.document`). The block of an object stands deeper
than its key, that of an array at the same depth. The first line of a block that follows a dash
stands on the line of the dash. Empty objects and arrays are written with brackets. A key that is
long or has several lines is written after a question mark.
-/

namespace JsonShape.Yaml

/-- The text of a number. -/
def numberText : Number → String
  | .integer value _ => toString value
  | .real value => floatLayout.text value

/-- Spaces. -/
def spaces (count : Nat) : String := "".pushn ' ' count

/-- Whether a key can stand before a colon on one line. -/
def isSimpleKey (key : String) : Bool :=
  key.utf8ByteSize ≤ 128 && !Scalar.isMultiline key.toList

/-- A scalar with the end of its line. Blocks end theirs themselves. -/
def scalarLine (indent : Nat) (text : String) : String :=
  let written := Scalar.ofString false (indent + 2) text
  if Scalar.style false text = .literal then written else written ++ "\n"

/-- Where a value stands. -/
inductive Position
  /-- After a key and a colon. -/
  | afterKey
  /-- After a dash, a question mark, or the colon of a long key. -/
  | afterMark
deriving DecidableEq, Repr

/-- Entries of a block, each on lines of its own, at a depth. What stands before the first one
depends on the position of the block. -/
def block (position : Position) (indent : Nat) (entries : List String) : String :=
  match position with
  | .afterKey => "\n" ++ "".intercalate (entries.map (spaces indent ++ ·))
  | .afterMark => " " ++ (spaces indent).intercalate entries

mutual

/-- The text of a value at a position in a block of some depth, up to the end of its last line. -/
def valueAt (position : Position) (indent : Nat) : Json → String
  | .null => " null\n"
  | .bool true => " true\n"
  | .bool false => " false\n"
  | .number number => " " ++ numberText number ++ "\n"
  | .string text => " " ++ scalarLine indent text
  | .array [] => " []\n"
  | .array (first :: rest) =>
    let depth := if position = .afterKey then indent else indent + 2
    block position depth (("-" ++ valueAt .afterMark depth first) :: elements depth rest)
  | .object [] => " \x7b\x7d\n"
  | .object ((key, value) :: rest) =>
    block position (indent + 2)
      ((keyAt (indent + 2) key ++ valueAt (keyPosition key) (indent + 2) value)
        :: members (indent + 2) rest)

/-- The entries of an array. -/
def elements (indent : Nat) : List Json → List String
  | [] => []
  | value :: rest => ("-" ++ valueAt .afterMark indent value) :: elements indent rest

/-- The entries of an object. -/
def members (indent : Nat) : List (String × Json) → List String
  | [] => []
  | (key, value) :: rest =>
    (keyAt indent key ++ valueAt (keyPosition key) indent value) :: members indent rest

/-- The text of a key with its colon. -/
def keyAt (indent : Nat) (key : String) : String :=
  if isSimpleKey key then Scalar.ofString true indent key ++ ":"
  else "? " ++ scalarLine indent key ++ spaces indent ++ ":"

/-- Where the value of a key stands. -/
def keyPosition (key : String) : Position := if isSimpleKey key then .afterKey else .afterMark

end

/-- The text of a document. -/
def document (value : Json) : String :=
  match value with
  | .object (entry :: rest) => "".intercalate (members 0 (entry :: rest))
  | .array (first :: rest) => "".intercalate (elements 0 (first :: rest))
  | value => String.ofList ((valueAt .afterKey 0 value).toList.drop 1)

end JsonShape.Yaml
