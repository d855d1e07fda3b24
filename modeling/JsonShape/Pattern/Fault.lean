/-!
# Faults in patterns

The reasons for which a pattern is refused. Those of the last group concern the meaning of a pattern
that is well written; they come up only if there is no other fault.
-/

namespace JsonShape

/-- Why a pattern is refused. -/
inductive PatternFault
  | groupUnclosed
  | groupUnopened
  | groupNameDuplicate
  | groupNameEmpty
  | groupNameInvalid
  | groupNameUnclosed
  | flagUnknown
  | flagUnfinished
  | flagDanglingNegation
  | flagDuplicate
  | flagRepeatedNegation
  | lookAround
  | backreference
  | classUnclosed
  | classRangeInvalid
  | classRangeLiteral
  | classEscapeInvalid
  | repetitionMissing
  | repetitionUnclosed
  | repetitionDecimalEmpty
  | repetitionInvalid
  | decimalInvalid
  | escapeUnfinished
  | escapeUnknown
  | hexEmpty
  | hexInvalid
  | hexInvalidDigit
  | propertyInvalid
  | boundaryUnclosed
  | boundaryUnknown
  | boundaryUnfinished
  | tooNested
  | propertyUnknown
  | propertyValueUnknown
  | unicodeNotAllowed
  | notUtf8
  | tooLarge
deriving DecidableEq, Repr

/-- The wording of a fault. -/
def PatternFault.message : PatternFault → String
  | groupUnclosed => "unclosed group"
  | groupUnopened => "unopened group"
  | groupNameDuplicate => "duplicate capture group name"
  | groupNameEmpty => "empty capture group name"
  | groupNameInvalid => "invalid capture group character"
  | groupNameUnclosed => "unclosed capture group name"
  | flagUnknown => "unrecognized flag"
  | flagUnfinished => "expected flag but got end of regex"
  | flagDanglingNegation => "dangling flag negation operator"
  | flagDuplicate => "duplicate flag"
  | flagRepeatedNegation => "flag negation operator repeated"
  | lookAround => "look-around, including look-ahead and look-behind, is not supported"
  | backreference => "backreferences are not supported"
  | classUnclosed => "unclosed character class"
  | classRangeInvalid => "invalid character class range, the start must be <= the end"
  | classRangeLiteral => "invalid range boundary, must be a literal"
  | classEscapeInvalid => "invalid escape sequence found in character class"
  | repetitionMissing => "repetition operator missing expression"
  | repetitionUnclosed => "unclosed counted repetition"
  | repetitionDecimalEmpty => "repetition quantifier expects a valid decimal"
  | repetitionInvalid => "invalid repetition count range, the start must be <= the end"
  | decimalInvalid => "decimal literal invalid"
  | escapeUnfinished => "incomplete escape sequence, reached end of pattern prematurely"
  | escapeUnknown => "unrecognized escape sequence"
  | hexEmpty => "hexadecimal literal empty"
  | hexInvalid => "hexadecimal literal is not a Unicode scalar value"
  | hexInvalidDigit => "invalid hexadecimal digit"
  | propertyInvalid => "invalid Unicode character class"
  | boundaryUnclosed =>
    "special word boundary assertion is either unclosed or contains an invalid character"
  | boundaryUnknown =>
    "unrecognized special word boundary assertion, "
      ++ "valid choices are: start, end, start-half or end-half"
  | boundaryUnfinished =>
    "found either the beginning of a special word boundary or a bounded repetition on a \\b "
      ++ "with an opening brace, but no closing brace"
  | tooNested => "exceed the maximum number of nested parentheses/brackets (250)"
  | propertyUnknown => "Unicode property not found"
  | propertyValueUnknown => "Unicode property value not found"
  | unicodeNotAllowed => "Unicode not allowed here"
  | notUtf8 => "pattern can match invalid UTF-8"
  | tooLarge => "Compiled regex exceeds size limit of 10485760 bytes."

end JsonShape
