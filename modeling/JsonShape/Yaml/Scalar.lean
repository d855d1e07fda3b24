import JsonShape.Binary64.Basic
import JsonShape.Binary64.Layout
import JsonShape.Text

/-!
# YAML scalars

A string is written plain where that reads back as the same string. Otherwise it is quoted: in
single quotes, in double quotes if it holds characters that need an escape, and as a literal block
if it has several lines. `Scalar.isOther` says which strings would read back as something else.
-/

namespace JsonShape.Yaml

/-- Numbers are positional from `10 ^ (-5)` up to `10 ^ 16`, and a non-negative exponent has no
sign. -/
def floatLayout : FloatLayout := ⟨-5, 16, ""⟩

/-! ### Strings that read as something else -/

namespace Scalar

/-- A text without a leading sign. -/
def dropSign (text : List Char) : List Char :=
  match text with
  | '+' :: rest => rest
  | '-' :: rest => rest
  | text => text

/-- Whether a text is a run of digits with a superfluous zero in front. -/
def isZeroPadded (text : List Char) : Bool :=
  match dropSign text with
  | '0' :: rest => !rest.isEmpty && rest.all Char.isDigit
  | _ => false

/-- Whether a text is an integer of at most 128 bits, in base ten or with a marked base. -/
def isInteger (text : List Char) : Bool :=
  let (negative, digits) : Bool × List Char :=
    match text with
    | '+' :: rest => (false, rest)
    | '-' :: rest => (true, rest)
    | text => (false, text)
  let limit : Nat := if negative then twoPow 127 else twoPow 128 - 1
  let fits (base : Nat) (digits : List Char) : Bool := (natOfDigits? base digits).any (· ≤ limit)
  match digits with
  | '0' :: 'x' :: rest => fits 16 rest
  | '0' :: 'o' :: rest => fits 8 rest
  | '0' :: 'b' :: rest => fits 2 rest
  | digits => !isZeroPadded text && fits 10 digits

/-- Whether a text is an exponent, or empty. -/
def isExponent (text : List Char) : Bool :=
  match text with
  | [] => true
  | c :: rest =>
    (c == 'e' || c == 'E') && (natOfDigits? 10 (dropSign rest)).isSome

/-- The decimal number that a text without sign spells: its digits and its exponent. -/
def decimal? (text : List Char) : Option (Nat × Int) :=
  let whole := text.takeWhile Char.isDigit
  let rest := text.dropWhile Char.isDigit
  let (fraction, rest) : List Char × List Char :=
    match rest with
    | '.' :: after => (after.takeWhile Char.isDigit, after.dropWhile Char.isDigit)
    | rest => ([], rest)
  if isExponent rest then
    (natOfDigits? 10 (whole ++ fraction)).map fun digits =>
      let size := natOfDigits (dropSign (rest.drop 1))
      let exponent : Int := if rest.drop 1 |>.head? |>.any (· == '-') then -(size : Int) else size
      (digits, exponent - fraction.length)
  else none

/-- Whether a text is a number that is not too large, or one of the names of special numbers. -/
def isFloat (text : List Char) : Bool :=
  let unsigned := dropSign text
  [['.', 'i', 'n', 'f'], ['.', 'I', 'n', 'f'], ['.', 'I', 'N', 'F']].contains unsigned
    || [['.', 'n', 'a', 'n'], ['.', 'N', 'a', 'N'], ['.', 'N', 'A', 'N']].contains text
    || (decimal? unsigned).any fun (digits, exponent) =>
      (Binary64.ofDecimal false digits exponent).isSome

/-- The spellings of null and of the truth values. -/
def words : List String :=
  ["", "null", "Null", "NULL", "~", "true", "True", "TRUE", "false", "False", "FALSE"]

/-- Whether a plain string reads back as something else, or is a run of digits that looks like a
number. -/
def isOther (text : String) : Bool :=
  let chars := text.toList
  words.contains text || isInteger chars || isZeroPadded chars || isFloat chars

/-! ### Styles -/

/-- Whether a character ends a line. -/
def isBreak (c : Char) : Bool :=
  c == '\n' || c == '\r' || c == '\x85' || c == '\u2028' || c == '\u2029'

/-- Whether a character is blank or ends a line. -/
def isBlank (c : Char) : Bool := c == ' ' || c == '\t' || isBreak c

/-- Whether a character can be written as it is. -/
def isPrintable (c : Char) : Bool :=
  let n := c.toNat
  c == '\n' || (0x20 ≤ n && n ≤ 0x7e)
    || (0xa0 ≤ n && n != 0xfeff && n != 0xfffe && n != 0xffff)

/-- The styles of a scalar. -/
inductive Style
  | plain | single | double | literal
deriving DecidableEq, Repr

/-- Whether some character and the one after it have certain properties. -/
def hasPair (first second : Char → Bool) (chars : List Char) : Bool :=
  (chars.zip (chars.drop 1)).any fun (c, d) => first c && second d

/-- Whether what follows a character is blank or nothing. -/
def blankNext (rest : List Char) : Bool := rest.head?.all isBlank

/-- Whether a character after the first one, with what follows it, has a meaning in a plain scalar.
-/
def marksLater (before : Char) : List Char → Bool
  | [] => false
  | c :: rest =>
    (c == ':' && blankNext rest) || (c == '#' && isBlank before) || marksLater c rest

/-- Whether a plain scalar would begin with a mark or contain one. -/
def hasMark (chars : List Char) : Bool :=
  match chars with
  | [] => false
  | c :: rest =>
    chars.take 3 == ['-', '-', '-'] || chars.take 3 == ['.', '.', '.']
      || ['#', ',', '[', ']', '\x7b', '\x7d', '&', '*', '!', '|', '>', '\'', '"', '%', '@',
          '\x60'].contains c
      || (['?', ':', '-'].contains c && blankNext rest)
      || marksLater c rest

/-- Whether a text has several lines. -/
def isMultiline (chars : List Char) : Bool := chars.any isBreak

/-- Whether only double quotes can hold a text. -/
def needsEscapes (chars : List Char) : Bool :=
  hasPair (· == ' ') isBreak chars || !chars.all isPrintable

/-- The style of a text; a key has to stand on one line. -/
def style (isKey : Bool) (text : String) : Style :=
  let chars := text.toList
  let edge (c? : Option Char) : Bool := c?.any fun c => c == ' ' || isBreak c
  let quoted :=
    if needsEscapes chars || hasPair isBreak (· == ' ') chars then Style.double else .single
  -- a key is written on one line, whatever it holds
  if isKey && isMultiline chars then .double
  else if chars.contains '\n' then
    if isKey || chars.getLast? == some ' ' || needsEscapes chars then .double else .literal
  else if isOther text then quoted
  else if edge chars.head? || edge chars.getLast? || isMultiline chars || needsEscapes chars
      || hasMark chars then quoted
  else .plain

/-! ### Text of a style -/

/-- The hexadecimal digits of a number, at least as many as given. -/
def hex (width n : Nat) : List Char :=
  let digits := (Nat.toDigits 16 n).map Char.toUpper
  List.replicate (width - digits.length) '0' ++ digits

/-- The spelling of a character in double quotes. -/
def escape (c : Char) : List Char :=
  match c with
  | '\x00' => ['\\', '0']
  | '\x07' => ['\\', 'a']
  | '\x08' => ['\\', 'b']
  | '\t' => ['\\', 't']
  | '\n' => ['\\', 'n']
  | '\x0b' => ['\\', 'v']
  | '\x0c' => ['\\', 'f']
  | '\r' => ['\\', 'r']
  | '\x1b' => ['\\', 'e']
  | '"' => ['\\', '"']
  | '\\' => ['\\', '\\']
  | '\x85' => ['\\', 'N']
  | '\u2028' => ['\\', 'L']
  | '\u2029' => ['\\', 'P']
  | c =>
    if isPrintable c then [c]
    else if c.toNat ≤ 0xff then ['\\', 'x'] ++ hex 2 c.toNat
    else if c.toNat ≤ 0xffff then ['\\', 'u'] ++ hex 4 c.toNat
    else ['\\', 'U'] ++ hex 8 c.toNat

/-- Lines of a text, each indented; `fresh` says whether a line begins here. -/
def indented (indent : Nat) (fresh : Bool) : List Char → List Char
  | [] => if fresh then List.replicate indent ' ' else []
  | c :: rest =>
    if isBreak c then c :: indented indent true rest
    else (if fresh then List.replicate indent ' ' else []) ++ c :: indented indent false rest

/-- The body of a literal block: every line that is not empty is indented, and the last one ends. -/
def literalBody (indent : Nat) (fresh : Bool) : List Char → List Char
  | [] => if fresh then [] else ['\n']
  | c :: rest =>
    if isBreak c then c :: literalBody indent true rest
    else (if fresh then List.replicate indent ' ' else []) ++ c :: literalBody indent false rest

/-- What stands after the bar of a literal block: the indentation if the text begins with a blank,
and how line breaks at the end are to be read. -/
def literalHints (chars : List Char) : List Char :=
  (if chars.head?.any fun c => c == ' ' || isBreak c then ['2'] else [])
    ++ match chars.reverse with
      | c :: d :: _ => if isBreak c then (if isBreak d then ['+'] else []) else ['-']
      | [c] => if isBreak c then ['+'] else ['-']
      | [] => ['-']

/-- The text of a string, up to and including the end of the line. Further lines are indented. -/
def ofString (isKey : Bool) (indent : Nat) (text : String) : String :=
  let chars := text.toList
  match style isKey text with
  | .plain => text
  | .single =>
    let quoted := chars.flatMap fun c => if c = '\'' then ['\'', '\''] else [c]
    String.ofList ('\'' :: indented indent false quoted ++ ['\''])
  | .double => String.ofList ('"' :: chars.flatMap escape ++ ['"'])
  | .literal => String.ofList ('|' :: literalHints chars ++ '\n' :: literalBody indent true chars)

end Scalar

end JsonShape.Yaml
