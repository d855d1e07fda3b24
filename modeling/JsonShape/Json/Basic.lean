import JsonShape.Binary64.Basic
import JsonShape.Members

/-!
# JSON values

A number is either an integer that fits in 64 bits, signed or unsigned, or a binary64 number; the
spelling decides which, so `1` and `1.0` are different values. An object is a list of members in the
order of the text.

`Json.same` is equality of values: the order of an object's members does not count, that of an
array's elements does, and the two zeros of binary64 are one number. `Json.equals` looks only at the
value of a number and not at its spelling.
-/

namespace JsonShape

/-- A JSON number as its spelling fixes it. -/
inductive Number
  /-- An integer from `-2 ^ 63` to `2 ^ 64 - 1`. -/
  | integer (value : Int) (inRange : -9223372036854775808 ≤ value ∧ value < 18446744073709551616)
  /-- Any other number, rounded to binary64. -/
  | real (value : Binary64)
deriving DecidableEq

namespace Number

/-- The integer with this value if it fits in 64 bits, and the nearest binary64 number otherwise. -/
def ofInt (value : Int) : Number :=
  if h : -9223372036854775808 ≤ value ∧ value < 18446744073709551616 then integer value h
  else real (Binary64.ofInt value)

instance : OfNat Number n := ⟨ofInt n⟩

/-- The binary64 number nearest to the value. -/
def toBinary64 : Number → Binary64
  | integer value _ => Binary64.ofInt value
  | real value => value

/-- Whether the value is a whole number, whichever way it is spelled. -/
def isWhole : Number → Bool
  | integer _ _ => true
  | real value => value.isWhole

/-- Equality that tells integers from binary64 numbers. -/
def same : Number → Number → Bool
  | integer a _, integer b _ => a == b
  | real a, real b => a.same b
  | _, _ => false

/-- The exact value in units of binary64. -/
def units : Number → Int
  | integer value _ => value * Binary64.one
  | real value => value.units

/-- The order of numbers by value. -/
def lt (a b : Number) : Bool := decide (a.units < b.units)

/-- Equality of numbers by value. -/
def equals (a b : Number) : Bool := a.units == b.units

end Number

/-- A JSON value. -/
inductive Json
  | null
  | bool (value : Bool)
  | number (value : Number)
  | string (value : String)
  | array (elements : List Json)
  | object (members : List (String × Json))

namespace Json

instance : Inhabited Json := ⟨null⟩

section Relate

variable (sameNumber : Number → Number → Bool)

mutual

/-- Equality of values up to a relation of numbers. The order of members does not count. -/
def sameUpTo : Json → Json → Bool
  | null, null => true
  | bool a, bool b => a == b
  | number a, number b => sameNumber a b
  | string a, string b => a == b
  | array a, array b => sameElementsUpTo a b
  | object a, object b => a.length == b.length && sameMembersUpTo a b
  | _, _ => false

/-- Equality element by element. -/
def sameElementsUpTo : List Json → List Json → Bool
  | [], [] => true
  | a :: as, b :: bs => sameUpTo a b && sameElementsUpTo as bs
  | _, _ => false

/-- Whether every member of the first list has an equal value under its name in the second. -/
def sameMembersUpTo : List (String × Json) → List (String × Json) → Bool
  | [], _ => true
  | (name, a) :: rest, other =>
    (match other.lookup name with
      | some b => sameUpTo a b
      | none => false) && sameMembersUpTo rest other

end

end Relate

/-- Equality of values. -/
def same : Json → Json → Bool := sameUpTo Number.same

/-- Equality of lists of values. -/
def sameElements : List Json → List Json → Bool := sameElementsUpTo Number.same

/-- Equality of values in which the spelling of numbers does not count. -/
def equals : Json → Json → Bool := sameUpTo Number.equals

/-! ### Reading a value -/

/-- The value of a member of an object. -/
def member? (name : String) : Json → Option Json
  | object members => members.lookup name
  | _ => none

/-- The text of a string. -/
def string? : Json → Option String
  | string value => some value
  | _ => none

/-- Whether the value is a string. -/
def isString : Json → Bool
  | string _ => true
  | _ => false

/-- Whether the value is a number. -/
def isNumber : Json → Bool
  | number _ => true
  | _ => false

/-- Whether the value is `null`. -/
def isNull : Json → Bool
  | null => true
  | _ => false

/-! ### Repeated names -/

mutual

/-- The value with each repeated member name reduced to its first place and last value, at every
depth. -/
def collapse : Json → Json
  | array elements => array (collapseElements elements)
  | object members => object (Members.ofEntries (collapseMembers members))
  | value => value

/-- Reduce every element. -/
def collapseElements : List Json → List Json
  | [] => []
  | value :: rest => collapse value :: collapseElements rest

/-- Reduce the value of every member. -/
def collapseMembers : List (String × Json) → List (String × Json)
  | [] => []
  | (name, value) :: rest => (name, collapse value) :: collapseMembers rest

end

end Json

end JsonShape
