import JsonShape.Pattern.Property
import JsonShape.Unicode.Folding

/-!
# Sets of characters in patterns

A set (`CharSet`) is built from ranges, named classes and properties by union, complement and the
other operations on sets. A mode says how its leaves are read (`CharSet.contains`): without regard
to case, a leaf holds the variants of its characters too; outside Unicode mode, classes and variants
are those of ASCII. Leaves that are closed under variants stay so under all operations, so it is
enough to treat the leaves.
-/

namespace JsonShape

/-- How the leaves of a set are read. -/
structure CharMode where
  caseless : Bool
  unicode : Bool
deriving DecidableEq, Repr

/-- The named classes of ASCII characters. -/
inductive AsciiClass
  | alnum | alpha | ascii | blank | cntrl | digit | graph | lower | print | punct | space | upper
  | word | xdigit
deriving DecidableEq, Repr

namespace AsciiClass

/-- The class of a name. -/
def ofName? : String → Option AsciiClass
  | "alnum" => some alnum
  | "alpha" => some alpha
  | "ascii" => some ascii
  | "blank" => some blank
  | "cntrl" => some cntrl
  | "digit" => some digit
  | "graph" => some graph
  | "lower" => some lower
  | "print" => some print
  | "punct" => some punct
  | "space" => some space
  | "upper" => some upper
  | "word" => some word
  | "xdigit" => some xdigit
  | _ => none

/-- Whether a character belongs to a class. -/
def contains (c : Char) : AsciiClass → Bool
  | alnum => c.isAlphanum
  | alpha => c.isAlpha
  | ascii => c.toNat < 128
  | blank => c == '\t' || c == ' '
  | cntrl => c.toNat < 32 || c.toNat == 127
  | digit => c.isDigit
  | graph => 33 ≤ c.toNat && c.toNat ≤ 126
  | lower => c.isLower
  | print => 32 ≤ c.toNat && c.toNat ≤ 126
  | punct => 33 ≤ c.toNat && c.toNat ≤ 126 && !c.isAlphanum
  | space => c == ' ' || (9 ≤ c.toNat && c.toNat ≤ 13)
  | upper => c.isUpper
  | word => c.isAlphanum || c == '_'
  | xdigit => c.isDigit || ('a' ≤ c && c ≤ 'f') || ('A' ≤ c && c ≤ 'F')

end AsciiClass

/-- The classes with a one-letter escape. -/
inductive Shorthand
  | digit | space | word
deriving DecidableEq, Repr

/-- Whether a character belongs to a class, among all characters or among those of ASCII. -/
def Shorthand.contains (unicode : Bool) (c : Char) : Shorthand → Bool
  | digit => if unicode then Unicode.isDecimalDigit c else AsciiClass.digit.contains c
  | space => if unicode then Unicode.isWhiteSpace c else AsciiClass.space.contains c
  | word => if unicode then Unicode.isWordChar c else AsciiClass.word.contains c

/-- A set of characters. -/
inductive CharSet
  | empty
  | range (first last : Char)
  | ascii (kind : AsciiClass)
  | shorthand (kind : Shorthand)
  | property (query : PropertyQuery)
  | union (a b : CharSet)
  | complement (a : CharSet)
  | intersection (a b : CharSet)
  | difference (a b : CharSet)
  | symmetricDifference (a b : CharSet)
deriving DecidableEq, Repr

namespace CharSet

/-- The variants that count as equal to a character. -/
def variants (mode : CharMode) (c : Char) : List Char :=
  if mode.caseless then
    if mode.unicode then Unicode.caseVariants c
    else [c, if c.isUpper then c.toLower else c.toUpper]
  else [c]

/-- Whether a character belongs to a set. -/
def contains (mode : CharMode) (c : Char) : CharSet → Bool
  | empty => false
  | range first last => (variants mode c).any fun d => first ≤ d && d ≤ last
  | ascii kind => (variants mode c).any fun d => kind.contains d
  | shorthand kind => kind.contains mode.unicode c
  | property query =>
    match query.resolve with
    | .ok found => (variants mode c).any found.holds
    | .error _ => false
  | union a b => a.contains mode c || b.contains mode c
  | complement a => !a.contains mode c
  | intersection a b => a.contains mode c && b.contains mode c
  | difference a b => a.contains mode c && !b.contains mode c
  | symmetricDifference a b => a.contains mode c != b.contains mode c

/-- The set of one character. -/
def single (c : Char) : CharSet := range c c

/-- A set, or its complement. -/
def negateIf (negated : Bool) (set : CharSet) : CharSet := if negated then complement set else set

/-- The first fault in the meaning of a set. Outside Unicode mode properties and characters beyond
ASCII are refused. -/
def fault? (unicode : Bool) : CharSet → Option PatternFault
  | empty | ascii _ | shorthand _ => none
  | range first last =>
    if !unicode && (127 < first.toNat || 127 < last.toNat) then some .unicodeNotAllowed else none
  | property query =>
    if unicode then
      match query.resolve with
      | .ok _ => none
      | .error fault => some fault
    else some .unicodeNotAllowed
  | complement a => a.fault? unicode
  | union a b | intersection a b | difference a b | symmetricDifference a b =>
    (a.fault? unicode).or (b.fault? unicode)

/-- An estimate of the number of automaton states that a set takes. -/
def cost (unicode : Bool) : CharSet → Nat
  | empty | ascii _ => 1
  | range first last => if first = last then first.utf8Size else if last.toNat < 128 then 1 else 8
  | shorthand kind =>
    if unicode then match kind with | .digit => 150 | .space => 20 | .word => 1600 else 1
  | property _ => 1000
  | complement a => a.cost unicode + 8
  | union a b | intersection a b | difference a b | symmetricDifference a b =>
    max (a.cost unicode) (b.cost unicode)

end CharSet

end JsonShape
