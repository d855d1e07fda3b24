import JsonShape.Pattern.Syntax

/-!
# Names and patterns that are entered

The name of a property has to be an identifier: letters, digits, underscores and dollar signs of
ASCII, with no digit in front (`isFieldName`). A pattern has to be one that compiles, and must not
be blank (`patternIssue?`).
-/

namespace JsonShape

/-- Whether a character can begin an identifier. -/
def isNameStart (c : Char) : Bool := c.isAlpha || c == '_' || c == '$'

/-- Whether a character can stand in an identifier. -/
def isNamePart (c : Char) : Bool := isNameStart c || c.isDigit

/-- Whether a text is an identifier. -/
def isFieldName (text : String) : Bool :=
  match text.toList with
  | [] => false
  | c :: rest => isNameStart c && rest.all isNamePart

/-- Why a pattern cannot be used. -/
inductive PatternIssue
  | blank
  | refused (fault : PatternFault)
deriving DecidableEq, Repr

/-- The wording of an issue. -/
def PatternIssue.message : PatternIssue → String
  | blank => "Pattern cannot be empty"
  | refused fault => "Invalid regex: " ++ fault.message

/-- What is wrong with a pattern, if anything is. -/
def patternIssue? (pattern : String) : Option PatternIssue :=
  if Unicode.isBlank pattern then some .blank
  else
    match Regex.compile pattern with
    | .ok _ => none
    | .error fault => some (.refused fault)

end JsonShape
