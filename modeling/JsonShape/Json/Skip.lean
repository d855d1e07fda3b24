import JsonShape.Json.Punctuation

/-!
# Skipping a value

A reader that knows which members it wants skips the others (`Skip.value`). Skipping is less strict
than reading: numbers may be of any size, escapes need not stand for characters, and nesting is not
limited. It is also less exact about what is wrong after a comma or in an unfinished number.
-/

namespace JsonShape

namespace Skip

open Lexeme

/-- Skip the rest of a string after its opening quote. -/
def string (text : List Char) : Except Fault (Shorter text) :=
  (stringBy ⟨fun text => (hexQuad text).map fun (n, r) => (Char.ofNat n, r),
    .before .controlCharacter⟩ text).map Prod.snd

/-- Skip the digits of a number at a place where there has to be one. -/
def someDigits (text : List Char) : Except Fault (Shorter text) :=
  match someDigits? text with
  | none => .error (.here .invalidNumber text)
  | some (_, rest) => .ok rest

/-- Skip the exponent of a number, if it has one. -/
def power (text : List Char) : Except Fault (NotLonger text) :=
  match text with
  | 'e' :: rest | 'E' :: rest =>
    let start := (sign rest).2
    (someDigits start.1).map fun r => (start.trans r.notLonger).cons _
  | text => .ok (.refl text)

/-- Skip what may follow the digits of a number before the point. -/
def fraction (text : List Char) : Except Fault (NotLonger text) :=
  match text with
  | '.' :: rest =>
    match someDigits rest with
    | .error fault => .error fault
    | .ok tail => (power tail.1).map fun r => (tail.notLonger.trans r).cons '.'
  | text => power text

/-- Skip a number after its minus sign, if it has one. -/
def number (text : List Char) : Except Fault (Shorter text) :=
  match someDigits? text with
  | none => .error (.here .invalidNumber text)
  | some (ds, rest) =>
    if isPadded ds then .error (.here .invalidNumber (text.drop 1))
    else (fraction rest.1).map rest.transNotLonger

/-- The name of a member with the quote before it, and the colon after it. -/
def name (text : List Char) : Except Fault (Shorter text) :=
  match next? text with
  | none => .error (.here .endInObject [])
  | some ('"', start) =>
    match string start.1 with
    | .error fault => .error fault
    | .ok rest => (afterColon rest.1).map fun r => start.trans (rest.trans r)
  | some (c, ⟨rest, _⟩) => .error (.here .keyNotString (c :: rest))

/-- Where the next item begins between brackets that are open, at their start or after an item. -/
def nextItem (first : Bool) (close : Char) (unfinished noComma : FaultCause) (text : List Char) :
    Except Fault (Continuation (NotLonger text) text) :=
  match next? text with
  | none => .error (.here unfinished [])
  | some (c, rest) =>
    if c = close then .ok (.closed rest)
    else if first then .ok (.item (.refl text))
    else if c = ',' then .ok (.item rest.notLonger)
    else .error (.here noComma (c :: rest.1))

mutual

/-- Skip a value that may have leading blanks. -/
def value (text : List Char) : Except Fault (Shorter text) :=
  match next? text with
  | none => .error (.here .endInValue [])
  | some (c, ⟨rest, h⟩) =>
    let skipped : Except Fault (NotLonger rest) :=
      if c = 'n' then word ['u', 'l', 'l'] rest
      else if c = 't' then word ['r', 'u', 'e'] rest
      else if c = 'f' then word ['a', 'l', 's', 'e'] rest
      else if c = '-' then (number rest).map Shorter.notLonger
      else if c.isDigit then (number (c :: rest)).map Shorter.ofCons
      else if c = '"' then (string rest).map Shorter.notLonger
      else if c = '[' then (elements true rest).map Shorter.notLonger
      else if c = '\x7b' then (members true rest).map Shorter.notLonger
      else .error (.here .noValue (c :: rest))
    skipped.map (Shorter.transNotLonger ⟨rest, h⟩)
termination_by (text.length, 0)

/-- Skip the elements of an array up to its closing bracket. -/
def elements (first : Bool) (text : List Char) : Except Fault (Shorter text) :=
  match nextItem first ']' .endInArray .noCommaInArray text with
  | .error fault => .error fault
  | .ok (.closed rest) => .ok rest
  | .ok (.item ⟨start, hs⟩) =>
    match value start with
    | .error fault => .error fault
    | .ok ⟨rest, hr⟩ =>
      (elements false rest).map fun r =>
        NotLonger.transShorter ⟨start, hs⟩ (Shorter.trans ⟨rest, hr⟩ r)
termination_by (text.length, 1)
decreasing_by all_goals simp only [Prod.lex_def]; omega

/-- Skip the members of an object up to its closing brace. -/
def members (first : Bool) (text : List Char) : Except Fault (Shorter text) :=
  match nextItem first '\x7d' .endInObject .noCommaInObject text with
  | .error fault => .error fault
  | .ok (.closed rest) => .ok rest
  | .ok (.item ⟨start, hs⟩) =>
    match name start with
    | .error fault => .error fault
    | .ok ⟨content, hc⟩ =>
      match value content with
      | .error fault => .error fault
      | .ok ⟨rest, hr⟩ =>
        (members false rest).map fun r =>
          NotLonger.transShorter ⟨start, hs⟩
            (Shorter.trans ⟨content, hc⟩ (Shorter.trans ⟨rest, hr⟩ r))
termination_by (text.length, 1)
decreasing_by all_goals simp only [Prod.lex_def]; omega

end

end Skip

end JsonShape
