import JsonShape.Pattern.Fault
import JsonShape.Unicode.Alphabetic
import JsonShape.Unicode.Basic
import JsonShape.Unicode.Binary
import JsonShape.Unicode.Script

/-!
# Character properties in patterns

A pattern names a property of characters, or a property and one of its values. Names are compared
loosely: case, blanks, hyphens, underscores and a leading `is` do not count. A lone name is a binary
property, a general category or a script, in this order of preference, except that `cf`, `sc` and
`lc` are categories.

Of some binary properties only the names are known here; no character is taken to have them.
-/

namespace JsonShape

/-- What a pattern asks of a character. -/
inductive PropertyQuery
  | named (name : String)
  | valued (name value : String)
deriving DecidableEq, Repr

/-- A property of characters under the names it is known by. -/
structure CharProperty where
  names : List String
  holds : Char → Bool

namespace CharProperty

open Unicode

/-- Whether a character is assigned. -/
def isAssigned (c : Char) : Bool :=
  isLetter c || isMark c || isNumeric c || isPunctuation c || isSymbol c || isSeparator c
    || control.contains c || formatCharacter.contains c || privateUse.contains c

/-- Whether a character is a letter with case. -/
def isCasedLetter (c : Char) : Bool :=
  uppercaseLetter.contains c || lowercaseLetter.contains c || titlecaseLetter.contains c

/-- The general categories, their groups, and the three sets that go by the same kind of name. -/
def categories : List CharProperty :=
  [⟨["any"], fun _ => true⟩,
   ⟨["assigned"], isAssigned⟩,
   ⟨["ascii"], fun c => c.toNat < 128⟩,
   ⟨["l", "letter"], isLetter⟩,
   ⟨["lc", "casedletter"], isCasedLetter⟩,
   ⟨["lu", "uppercaseletter"], uppercaseLetter.contains⟩,
   ⟨["ll", "lowercaseletter"], lowercaseLetter.contains⟩,
   ⟨["lt", "titlecaseletter"], titlecaseLetter.contains⟩,
   ⟨["lm", "modifierletter"], modifierLetter.contains⟩,
   ⟨["lo", "otherletter"], otherLetter.contains⟩,
   ⟨["m", "mark", "combiningmark"], isMark⟩,
   ⟨["mn", "nonspacingmark"], nonspacingMark.contains⟩,
   ⟨["mc", "spacingmark"], spacingMark.contains⟩,
   ⟨["me", "enclosingmark"], enclosingMark.contains⟩,
   ⟨["n", "number"], isNumeric⟩,
   ⟨["nd", "decimalnumber", "digit"], isDecimalDigit⟩,
   ⟨["nl", "letternumber"], letterNumber.contains⟩,
   ⟨["no", "othernumber"], otherNumber.contains⟩,
   ⟨["p", "punctuation", "punct"], isPunctuation⟩,
   ⟨["pc", "connectorpunctuation"], connectorPunctuation.contains⟩,
   ⟨["pd", "dashpunctuation"], dashPunctuation.contains⟩,
   ⟨["ps", "openpunctuation"], openPunctuation.contains⟩,
   ⟨["pe", "closepunctuation"], closePunctuation.contains⟩,
   ⟨["pi", "initialpunctuation"], initialPunctuation.contains⟩,
   ⟨["pf", "finalpunctuation"], finalPunctuation.contains⟩,
   ⟨["po", "otherpunctuation"], otherPunctuation.contains⟩,
   ⟨["s", "symbol"], isSymbol⟩,
   ⟨["sm", "mathsymbol"], mathSymbol.contains⟩,
   ⟨["sc", "currencysymbol"], currencySymbol.contains⟩,
   ⟨["sk", "modifiersymbol"], modifierSymbol.contains⟩,
   ⟨["so", "othersymbol"], otherSymbol.contains⟩,
   ⟨["z", "separator"], isSeparator⟩,
   ⟨["zs", "spaceseparator"], spaceSeparator.contains⟩,
   ⟨["zl", "lineseparator"], lineSeparator.contains⟩,
   ⟨["zp", "paragraphseparator"], paragraphSeparator.contains⟩,
   ⟨["c", "other"], fun c =>
     control.contains c || formatCharacter.contains c || privateUse.contains c || !isAssigned c⟩,
   ⟨["cc", "control", "cntrl"], control.contains⟩,
   ⟨["cf", "format"], formatCharacter.contains⟩,
   ⟨["co", "privateuse"], privateUse.contains⟩,
   ⟨["cs", "surrogate"], fun _ => false⟩,
   ⟨["cn", "unassigned"], fun c => !isAssigned c⟩]

/-- The scripts as properties. -/
def ofScripts : List CharProperty :=
  scripts.map fun script => ⟨script.names, script.table.contains⟩

/-- The binary properties that are made up of other ones. -/
def composed : List CharProperty :=
  [⟨["alphabetic", "alpha"], isAlphabetic⟩,
   ⟨["uppercase", "upper"], fun c => uppercaseLetter.contains c || otherUppercase.contains c⟩,
   ⟨["lowercase", "lower"], fun c => lowercaseLetter.contains c || otherLowercase.contains c⟩,
   ⟨["cased"], fun c =>
     isCasedLetter c || otherUppercase.contains c || otherLowercase.contains c⟩,
   ⟨["otheralphabetic", "oalpha"], otherAlphabetic.contains⟩,
   ⟨["otheruppercase", "oupper"], otherUppercase.contains⟩,
   ⟨["otherlowercase", "olower"], otherLowercase.contains⟩,
   ⟨["whitespace", "wspace", "space"], isWhiteSpace⟩,
   ⟨["asciihexdigit", "ahex"], fun c =>
     c.isDigit || ('a' ≤ c && c ≤ 'f') || ('A' ≤ c && c ≤ 'F')⟩]

/-- The names of binary properties whose characters are not known here. -/
def namesOnly : List String :=
  ["bidimirrored", "bidim", "caseignorable", "ci", "changeswhencasefolded", "cwcf",
   "changeswhencasemapped", "cwcm", "changeswhenlowercased", "cwl", "changeswhentitlecased", "cwt",
   "changeswhenuppercased", "cwu", "diacritic", "dia", "emoji", "emojipresentation", "epres",
   "extendedpictographic", "extpict", "graphemebase", "grbase", "graphemeextend", "grext",
   "graphemelink", "grlink", "hyphen", "idcompatmathcontinue", "idcompatmathstart", "idcontinue",
   "idc", "idstart", "ids", "idsunaryoperator", "idsu", "math", "modifiercombiningmark", "mcm",
   "otherdefaultignorablecodepoint", "odi", "othergraphemeextend", "ogrext", "otheridcontinue",
   "oidc", "otheridstart", "oids", "othermath", "omath", "prependedconcatenationmark", "pcm",
   "sentenceterminal", "sterm", "terminalpunctuation", "term", "xidcontinue", "xidc", "xidstart",
   "xids"]

/-- The binary properties. -/
def binary : List CharProperty :=
  composed ++ binaryProperties.map (fun property => ⟨property.names, property.table.contains⟩)
    ++ namesOnly.map fun name => ⟨[name], fun _ => false⟩

/-- The property of a name among some. -/
def find? (properties : List CharProperty) (name : String) : Option CharProperty :=
  properties.find? fun property => property.names.contains name

/-- The form of a name in which names are compared. -/
def looseName (name : String) : String :=
  let lower (c : Char) : Char := if 'A' ≤ c ∧ c ≤ 'Z' then Char.ofNat (c.toNat + 32) else c
  let keep (cs : List Char) : String :=
    String.ofList ((cs.filter fun c => c != ' ' && c != '_' && c != '-' && c.toNat < 128).map lower)
  match name.toList with
  | i :: s :: rest =>
    if lower i = 'i' ∧ lower s = 's' then
      if keep rest = "c" then "isc" else keep rest
    else keep (i :: s :: rest)
  | cs => keep cs

/-- The property with a lone name. -/
def ofName? (name : String) : Option CharProperty :=
  if ["cf", "sc", "lc"].contains name then find? categories name
  else
    (find? binary name).or ((find? categories name).or (find? ofScripts name))

end CharProperty

/-- The property that a query asks for. -/
def PropertyQuery.resolve : PropertyQuery → Except PatternFault CharProperty
  | named name =>
    match CharProperty.ofName? (CharProperty.looseName name) with
    | some property => .ok property
    | none => .error .propertyUnknown
  | valued name value =>
    let name := CharProperty.looseName name
    let value := CharProperty.looseName value
    let among (properties : List CharProperty) : Except PatternFault CharProperty :=
      match CharProperty.find? properties value with
      | some property => .ok property
      | none => .error .propertyValueUnknown
    if ["gc", "generalcategory", "category"].contains name then among CharProperty.categories
    else if ["sc", "script", "scx", "scriptextensions"].contains name then
      among CharProperty.ofScripts
    else if (CharProperty.find? CharProperty.binary name).isSome then .error .propertyValueUnknown
    else .error .propertyUnknown

end JsonShape
