import JsonShape.Pattern.Regex

/-!
# Formats of strings

A string has at most one format (`StringFormat.detect`): the first in the list of formats whose
expression is found in it. All expressions are anchored at both ends. Digits of dates are those of
any script, and letters of identifiers and schemes may have any case variant.

Next to its expression (`StringFormat.regex`) a format has its pattern as it is written
(`StringFormat.pattern`).
-/

namespace JsonShape

/-- The formats that a string can be found to have. -/
inductive StringFormat
  | date | dateTime | email | uuid | uri
deriving DecidableEq, Repr

namespace StringFormat

/-- The value of the `format` keyword. -/
def name : StringFormat → String
  | date => "date"
  | dateTime => "date-time"
  | email => "email"
  | uuid => "uuid"
  | uri => "uri"

/-- The formats in the order in which they are tried. -/
def all : List StringFormat := [date, dateTime, email, uuid, uri]

/-- The pattern of a format as it is written. -/
def pattern : StringFormat → String
  | date => "^\\d{4}-\\d{2}-\\d{2}$"
  | dateTime =>
    "^\\d{4}-\\d{2}-\\d{2}T\\d{2}:\\d{2}:\\d{2}(?:\\.\\d+)?(?:Z|[+-]\\d{2}:\\d{2})?$"
  | email => "^[^@]+@[^@]+\\.[^@]+$"
  | uuid => "(?i)^[0-9a-f]{8}-[0-9a-f]{4}-[0-9a-f]{4}-[0-9a-f]{4}-[0-9a-f]{12}$"
  | uri => "(?i)^(https?|ftp)://[^\\s/$.?#].[^\\s]*$"

/-! ### The expressions -/

/-- Characters that are told apart by case. -/
def exact : CharMode := ⟨false, true⟩

/-- Characters up to case. -/
def caseless : CharMode := ⟨true, true⟩

/-- A text, read in a mode. -/
def literal (mode : CharMode) (text : String) : Regex :=
  .sequence (text.toList.map fun c => .set mode (.single c))

/-- A whole text. -/
def anchored (parts : List Regex) : Regex :=
  .sequence (.anchor .textStart :: parts ++ [.anchor .textEnd])

/-- A number of decimal digits. -/
def digits (count : Nat) : Regex := .rep count (some count) (.set exact (.shorthand .digit))

/-- One or more. -/
def oneOrMore (regex : Regex) : Regex := .rep 1 none regex

/-- One or none. -/
def optional (regex : Regex) : Regex := .rep 0 (some 1) regex

/-- Year, month and day. -/
def day : Regex := .sequence [digits 4, literal exact "-", digits 2, literal exact "-", digits 2]

/-- Hours and minutes. -/
def clock : Regex := .sequence [digits 2, literal exact ":", digits 2]

/-- A fraction of a second. -/
def fraction : Regex := .sequence [literal exact ".", oneOrMore (.set exact (.shorthand .digit))]

/-- The distance of a time from the universal one. -/
def offset : Regex :=
  .choice
    [literal exact "Z",
     .sequence [.set exact (.union (.single '+') (.single '-')), clock]]

/-- One or more characters that are no at sign. -/
def mailPart : Regex := oneOrMore (.set exact (.complement (.single '@')))

/-- A number of hexadecimal digits. -/
def hexDigits (count : Nat) : Regex :=
  .rep count (some count) (.set caseless (.union (.range '0' '9') (.range 'a' 'f')))

/-- The schemes of addresses. -/
def scheme : Regex :=
  .choice
    [.sequence [literal caseless "http", optional (literal caseless "s")],
     literal caseless "ftp"]

/-- The first character of what follows a scheme. -/
def hostStart : Regex :=
  .set caseless (.complement
    (.union (.union (.union (.union (.union (.shorthand .space) (.single '/')) (.single '$'))
      (.single '.')) (.single '?')) (.single '#')))

/-- The expression of a format. -/
def regex : StringFormat → Regex
  | date => anchored [day]
  | dateTime =>
    anchored
      [day, literal exact "T", clock, literal exact ":", digits 2, optional fraction,
       optional offset]
  | email => anchored [mailPart, literal exact "@", mailPart, literal exact ".", mailPart]
  | uuid =>
    anchored
      [hexDigits 8, literal caseless "-", hexDigits 4, literal caseless "-", hexDigits 4,
       literal caseless "-", hexDigits 4, literal caseless "-", hexDigits 12]
  | uri =>
    anchored
      [scheme, literal caseless "://", hostStart,
       .set caseless (.complement (.single '\n')),
       .rep 0 none (.set caseless (.complement (.shorthand .space)))]

/-- The format of a text, if it has one. -/
def detect (text : String) : Option StringFormat :=
  all.find? fun format => format.regex.isFoundIn text

end StringFormat

end JsonShape
