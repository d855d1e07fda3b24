import JsonShape.Json.Basic
import JsonShape.Json.Fault
import JsonShape.Text

/-!
# Words, numbers and strings of JSON text

Each reader (`Lexeme.word`, `Lexeme.number` and `Lexeme.string`) takes what follows the first
character of its construct and gives back the value with the rest of the text, which comes with a
proof that it is not longer than what was given. The readers of arrays and objects recurse on that.
-/

namespace JsonShape

namespace Lexeme

/-- The four blank characters of JSON. -/
def isBlank (c : Char) : Bool := c == ' ' || c == '\n' || c == '\t' || c == '\r'

/-- The text without leading blanks. -/
def skipBlanks (text : List Char) : List Char := text.dropWhile isBlank

/-- The first character that is not blank, with what follows it. -/
def next? : (text : List Char) → Option (Char × Shorter text)
  | [] => none
  | c :: rest =>
    if isBlank c then (next? rest).map fun (d, r) => (d, r.cons c) else some (c, .tail c rest)

/-- Drop an expected word. -/
def word (expected : List Char) (text : List Char) : Except Fault (NotLonger text) :=
  match expected, text with
  | [], text => .ok (.refl text)
  | _ :: _, [] => .error (.here .endInValue [])
  | e :: es, c :: rest =>
    if e = c then (word es rest).map (NotLonger.cons c) else .error (.here .wrongWord (c :: rest))

/-! ### Numbers -/

/-- The leading digits, and what follows them. -/
def digits : (text : List Char) → List Char × NotLonger text
  | [] => ([], .refl [])
  | c :: rest =>
    if c.isDigit then
      let (ds, r) := digits rest
      (c :: ds, r.cons c)
    else ([], .refl (c :: rest))

/-- At least one leading digit, and what follows the digits. -/
def someDigits? (text : List Char) : Option (List Char × Shorter text) :=
  match text with
  | [] => none
  | c :: rest =>
    if c.isDigit then
      let (ds, r) := digits rest
      some (c :: ds, .ofNotLonger c r)
    else none

/-- Whether a sign below zero stands in front, and what follows the sign. -/
def sign (text : List Char) : Bool × NotLonger text :=
  match text with
  | '+' :: rest => (false, (NotLonger.refl rest).cons '+')
  | '-' :: rest => (true, (NotLonger.refl rest).cons '-')
  | text => (false, .refl text)

/-- What follows the first digit with which the exponent no longer fits a signed 32-bit integer. -/
def exponentOverflow (value : Nat) : List Char → Option (List Char)
  | [] => none
  | c :: rest =>
    match digitValue? 10 c with
    | none => none
    | some d =>
      if 2147483648 ≤ 10 * value + d then some rest else exponentOverflow (10 * value + d) rest

/-- The number with the given sign, significant digits and exponent; the text after it decides where
a number that is too large is reported. -/
def scaled (negative : Bool) (significand : Nat) (exponent : Int) (rest : List Char) :
    Except Fault Number :=
  match Binary64.ofDecimal negative significand exponent with
  | some x => .ok (.real x)
  | none => .error (.before .numberOutOfRange rest)

/-- The fault of a number that lacks a digit where the text goes on. -/
def noDigit (text : List Char) : Fault :=
  .here (if text.isEmpty then .endInValue else .invalidNumber) text

/-- The exponent after its letter. `places` is how many digits stood after the point. -/
def exponent (negative : Bool) (significand places : Nat) (text : List Char) :
    Except Fault (Number × NotLonger text) :=
  let (below, start) := sign text
  match someDigits? start.1 with
  | none => .error (noDigit start.1)
  | some (ds, r) =>
    let rest := start.trans r.notLonger
    match exponentOverflow 0 start.1 with
    -- such an exponent decides alone: the value is zero or beyond every limit
    | some after =>
      if significand ≠ 0 && !below then .error (.before .numberOutOfRange after)
      else .ok (.real (.zero negative), rest)
    | none =>
      let size := natOfDigits ds
      let e : Int := if below then -(size : Int) else size
      (scaled negative significand (e - places) rest.1).map fun n => (n, rest)

/-- The integer that a run of digits spells. Minus zero is not an integer. -/
def whole (negative : Bool) (ds rest : List Char) : Except Fault Number :=
  let n := natOfDigits ds
  let value : Int := if negative then -(n : Int) else n
  if h : (-9223372036854775808 ≤ value ∧ value < 18446744073709551616)
      ∧ ¬(negative = true ∧ n = 0) then
    .ok (.integer value h.1)
  else scaled negative n 0 rest

/-- What may follow the significant digits of a number: an exponent, or nothing. -/
def power (negative : Bool) (significand places : Nat) (text : List Char) :
    Except Fault (Number × NotLonger text) :=
  match text with
  | 'e' :: rest | 'E' :: rest =>
    (exponent negative significand places rest).map fun (n, r) => (n, r.cons _)
  | text => (scaled negative significand (-places) text).map fun n => (n, .refl text)

/-- What may follow the digits of a number before the point. -/
def fraction (negative : Bool) (ds : List Char) (text : List Char) :
    Except Fault (Number × NotLonger text) :=
  match text with
  | '.' :: after =>
    match someDigits? after with
    | none => .error (noDigit after)
    | some (fs, tail) =>
      (power negative (natOfDigits (ds ++ fs)) fs.length tail.1).map fun (n, r) =>
        (n, (tail.notLonger.trans r).cons '.')
  | 'e' :: tail | 'E' :: tail =>
    (exponent negative (natOfDigits ds) 0 tail).map fun (n, r) => (n, r.cons _)
  | text => (whole negative ds text).map fun n => (n, .refl text)

/-- Whether digits have a superfluous zero in front. -/
def isPadded (ds : List Char) : Bool := ds.head? == some '0' && 1 < ds.length

/-- A number after its minus sign, if it has one. -/
def number (negative : Bool) (text : List Char) : Except Fault (Number × Shorter text) :=
  match someDigits? text with
  | none => .error (noDigit text)
  | some (ds, rest) =>
    if isPadded ds then .error (.here .invalidNumber (text.drop 1))
    else (fraction negative ds rest.1).map fun (n, r) => (n, rest.transNotLonger r)

/-! ### Strings -/

/-- Four hexadecimal digits. They are taken as four bytes: too few are an unfinished string, and a
wrong one is reported at the fourth. -/
def hexQuad (text : List Char) : Except Fault (Nat × Shorter text) :=
  if byteCount text < 4 then .error (.before .endInString [])
  else
    match text with
    | a :: b :: c :: d :: rest =>
      match natOfDigits? 16 [a, b, c, d] with
      | some n => .ok (n, (((Shorter.tail d rest).cons c).cons b).cons a)
      | none => .error ⟨.invalidEscape, byteCount text - 4⟩
    | text => .error ⟨.invalidEscape, byteCount text - 4⟩

/-- The character of a hexadecimal escape, after its letter. A leading surrogate needs a second
escape with a trailing one. -/
def hexEscape (text : List Char) : Except Fault (Char × Shorter text) :=
  match hexQuad text with
  | .error fault => .error fault
  | .ok (n, rest) =>
    -- a trailing surrogate may not come first; what is no surrogate stands alone
    if 0xDC00 ≤ n ∧ n ≤ 0xDFFF then .error (.before .loneSurrogate rest.1)
    else if n < 0xD800 ∨ 0xDBFF < n then .ok (Char.ofNat n, rest)
    else
      match rest with
      | ⟨'\\' :: 'u' :: low, h⟩ =>
        match hexQuad low with
        | .error fault => .error fault
        | .ok (m, after) =>
          if m < 0xDC00 ∨ 0xDFFF < m then .error (.before .loneSurrogate after.1)
          else
            .ok (Char.ofNat ((n - 0xD800) * 0x400 + (m - 0xDC00) + 0x10000),
              Shorter.trans ⟨'\\' :: 'u' :: low, h⟩ ((after.cons 'u').cons '\\'))
      | ⟨['\\'], _⟩ => .error (.here .endInString [])
      | ⟨'\\' :: c :: after, _⟩ => .error (.here .unfinishedSurrogate (c :: after))
      | ⟨[], _⟩ => .error (.here .endInString [])
      | ⟨c :: after, _⟩ => .error (.here .unfinishedSurrogate (c :: after))

/-- How the parts of a string are read of which there is more than one way. -/
structure StringRules where
  /-- The character of a hexadecimal escape, after its letter. -/
  hexEscape : (text : List Char) → Except Fault (Char × Shorter text)
  /-- The fault of a control character at which a text begins. -/
  control : List Char → Fault

/-- The character that a one-letter escape stands for. -/
def simpleEscape? : Char → Option Char
  | '"' => some '"'
  | '\\' => some '\\'
  | '/' => some '/'
  | 'b' => some '\x08'
  | 'f' => some '\x0c'
  | 'n' => some '\n'
  | 'r' => some '\r'
  | 't' => some '\t'
  | _ => none

/-- The characters of a string after its opening quote, by some rules. -/
def stringBy (rules : StringRules) (text : List Char) : Except Fault (List Char × Shorter text) :=
  match text with
  | [] => .error (.here .endInString [])
  | '"' :: rest => .ok ([], .tail '"' rest)
  | ['\\'] => .error (.here .endInString [])
  | '\\' :: 'u' :: rest =>
    match rules.hexEscape rest with
    | .error fault => .error fault
    | .ok (c, ⟨after, h⟩) =>
      (stringBy rules after).map fun (cs, r) =>
        (c :: cs, ((Shorter.trans ⟨after, h⟩ r).cons 'u').cons '\\')
  | '\\' :: c :: rest =>
    match simpleEscape? c with
    | none => .error (.here .invalidEscape (c :: rest))
    | some d => (stringBy rules rest).map fun (cs, r) => (d :: cs, (r.cons c).cons '\\')
  | c :: rest =>
    if c.toNat < 32 then .error (rules.control (c :: rest))
    else (stringBy rules rest).map fun (cs, r) => (c :: cs, r.cons c)
termination_by text.length
decreasing_by all_goals simp_wf; try omega

/-- The characters of a string after its opening quote. -/
def string (text : List Char) : Except Fault (List Char × Shorter text) :=
  stringBy ⟨hexEscape, .here .controlCharacter⟩ text

end Lexeme

end JsonShape
