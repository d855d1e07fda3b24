/-!
# Faults in JSON text

A fault says what is wrong and how many bytes of the text had not been consumed when it was found;
the byte that gives the fault away counts as consumed. From this `Fault.locate` computes the line
and the byte column. Lines count from one. At the end of a line's bytes the column is their number,
so the column of a fault at a line break is zero, on the line that follows.
-/

namespace JsonShape

/-- What can be wrong with a JSON text. -/
inductive FaultCause
  | endInValue
  | endInArray
  | endInObject
  | endInString
  | noValue
  | wrongWord
  | keyNotString
  | trailingComma
  | noCommaInArray
  | noCommaInObject
  | noColon
  | invalidNumber
  | trailingText
  | numberOutOfRange
  | invalidEscape
  | unfinishedSurrogate
  | loneSurrogate
  | controlCharacter
  | tooDeep
deriving DecidableEq

/-- The wording of a cause. -/
def FaultCause.message : FaultCause → String
  | endInValue => "EOF while parsing a value"
  | endInArray => "EOF while parsing a list"
  | endInObject => "EOF while parsing an object"
  | endInString => "EOF while parsing a string"
  | noValue => "expected value"
  | wrongWord => "expected ident"
  | keyNotString => "key must be a string"
  | trailingComma => "trailing comma"
  | noCommaInArray => "expected `,` or `]`"
  | noCommaInObject => "expected `,` or `\x7d`"
  | noColon => "expected `:`"
  | invalidNumber => "invalid number"
  | trailingText => "trailing characters"
  | numberOutOfRange => "number out of range"
  | invalidEscape => "invalid escape"
  | unfinishedSurrogate => "unexpected end of hex escape"
  | loneSurrogate => "lone leading surrogate in hex escape"
  | controlCharacter => "control character (\\u0000-\\u001F) found while parsing a string"
  | tooDeep => "recursion limit exceeded"

/-- The number of bytes of a text in UTF-8. -/
def byteCount : List Char → Nat
  | [] => 0
  | c :: rest => c.utf8Size + byteCount rest

/-- A cause and the number of bytes that were still unread. -/
structure Fault where
  cause : FaultCause
  unread : Nat
deriving DecidableEq

namespace Fault

/-- A fault given away by the first byte of what is left, or by its end. -/
def here (cause : FaultCause) (rest : List Char) : Fault := ⟨cause, byteCount rest - 1⟩

/-- A fault found after all before `rest` was consumed. -/
def before (cause : FaultCause) (rest : List Char) : Fault := ⟨cause, byteCount rest⟩

/-- The line and the byte column reached after consuming some bytes from a line and column. A
character of which only a part was consumed adds that part to the column. -/
def advance : List Char → (bytes line column : Nat) → Nat × Nat
  | [], _, line, column => (line, column)
  | c :: rest, bytes, line, column =>
    if bytes < c.utf8Size then (line, column + bytes)
    else if c = '\n' then advance rest (bytes - 1) (line + 1) 0
    else advance rest (bytes - c.utf8Size) line (column + c.utf8Size)

end Fault

/-- A fault with its place in the text. -/
structure SyntaxError where
  cause : FaultCause
  line : Nat
  column : Nat
deriving DecidableEq

/-- The place of a fault in the text it was found in. -/
def Fault.locate (fault : Fault) (text : List Char) : SyntaxError :=
  let (line, column) := advance text (byteCount text - fault.unread) 1 0
  ⟨fault.cause, line, column⟩

/-- The wording of an error with its place. -/
def SyntaxError.message (error : SyntaxError) : String :=
  s!"{error.cause.message} at line {error.line} column {error.column}"

end JsonShape
