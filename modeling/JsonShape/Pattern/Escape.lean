import JsonShape.Pattern.Regex
import JsonShape.Text

/-!
# Escapes in patterns

What a backslash and the characters after it stand for (`PatternText.escape`). With the flag that
makes blanks insignificant, blanks and comments may also stand inside hexadecimal numbers and
property names.
-/

namespace JsonShape

/-- What is read at one place of a pattern: a character, a set, or a condition. -/
inductive Atom
  /-- A character; `asByte` if it was written as a number of two digits. -/
  | literal (c : Char) (asByte : Bool)
  | chars (set : CharSet)
  | anchor (condition : Anchor)

namespace PatternText

/-- Drop leading blanks and comments. A comment runs from a number sign to the end of its line. -/
def skipBlanks (inComment : Bool) : (text : List Char) → NotLonger text
  | [] => .refl []
  | c :: rest =>
    if inComment then (skipBlanks (c != '\n') rest).cons c
    else if Unicode.isWhiteSpace c then (skipBlanks false rest).cons c
    else if c = '#' then (skipBlanks true rest).cons c
    else .refl (c :: rest)

/-- Drop leading blanks and comments where they are insignificant. -/
def skip (blanks : Bool) (text : List Char) : NotLonger text :=
  if blanks then skipBlanks false text else .refl text

/-- The character with a code point, if there is one. -/
def scalar (n : Nat) : Except PatternFault Char :=
  if n.isValidChar then .ok (Char.ofNat n) else .error .hexInvalid

/-- A number of a fixed count of hexadecimal digits. -/
def hexDigits (blanks : Bool) (value : Nat) :
    (count : Nat) → (text : List Char) → Except PatternFault (Nat × NotLonger text)
  | 0, text => .ok (value, .refl text)
  | _ + 1, [] => .error .escapeUnfinished
  | count + 1, c :: rest =>
    match digitValue? 16 c with
    | none => .error .hexInvalidDigit
    | some d =>
      let after := skip blanks rest
      (hexDigits blanks (value * 16 + d) count after.1).map fun (n, r) =>
        (n, (after.trans r).cons c)

/-- The rest of a hexadecimal number up to its closing brace; `none` if there are no digits. -/
def hexUntilBrace (blanks : Bool) (value : Option Nat) (text : List Char) :
    Except PatternFault (Option Nat × NotLonger text) :=
  match skip blanks text with
  | ⟨[], _⟩ => .error .escapeUnfinished
  | ⟨c :: rest, h⟩ =>
    if c = '\x7d' then .ok (value, ⟨rest, by simp only [List.length_cons] at h; omega⟩)
    else
      match digitValue? 16 c with
      | none => .error .hexInvalidDigit
      | some d =>
        (hexUntilBrace blanks (some (value.getD 0 * 16 + d)) rest).map fun (n, r) =>
          (n, ⟨r.1, by have := r.2; simp only [List.length_cons] at h; omega⟩)
termination_by text.length
decreasing_by simp only [List.length_cons] at h; omega

/-- A hexadecimal escape after its letter, which fixes the count of digits unless they stand in
braces, and whether it was written without braces. -/
def hex (blanks : Bool) (count : Nat) (text : List Char) :
    Except PatternFault ((Char × Bool) × NotLonger text) :=
  match skip blanks text with
  | ⟨[], _⟩ => .error .escapeUnfinished
  | ⟨'\x7b' :: rest, h⟩ =>
    match hexUntilBrace blanks none rest with
    | .error fault => .error fault
    | .ok (none, _) => .error .hexEmpty
    | .ok (some n, r) =>
      (scalar n).map fun c =>
        ((c, false), ⟨r.1, by have := r.2; simp only [List.length_cons] at h; omega⟩)
  | ⟨c :: rest, h⟩ =>
    match hexDigits blanks 0 count (c :: rest) with
    | .error fault => .error fault
    | .ok (n, r) => (scalar n).map fun c => ((c, true), ⟨r.1, Nat.le_trans r.2 h⟩)

/-- The characters up to a closing brace. -/
def untilBrace (blanks : Bool) (text : List Char) :
    Except PatternFault (List Char × NotLonger text) :=
  match skip blanks text with
  | ⟨[], _⟩ => .error .escapeUnfinished
  | ⟨c :: rest, h⟩ =>
    if c = '\x7d' then .ok ([], ⟨rest, by simp only [List.length_cons] at h; omega⟩)
    else
      (untilBrace blanks rest).map fun (cs, r) =>
        (c :: cs, ⟨r.1, by have := r.2; simp only [List.length_cons] at h; omega⟩)
termination_by text.length
decreasing_by simp only [List.length_cons] at h; omega

/-- The parts of a text before and after the first occurrence of a separator. -/
def splitAt? (separator : List Char) : List Char → Option (List Char × List Char)
  | [] => none
  | c :: rest =>
    if separator.isPrefixOf (c :: rest) then some ([], (c :: rest).drop separator.length)
    else (splitAt? separator rest).map fun (before, after) => (c :: before, after)

/-- The query of a property that is written between braces. -/
def query (text : List Char) : PropertyQuery :=
  match (splitAt? ['!', '='] text).or ((splitAt? [':'] text).or (splitAt? ['='] text)) with
  | some (name, value) => .valued (String.ofList name) (String.ofList value)
  | none => .named (String.ofList text)

/-- A property escape after its letter. -/
def property (blanks : Bool) (text : List Char) :
    Except PatternFault (PropertyQuery × NotLonger text) :=
  match skip blanks text with
  | ⟨[], _⟩ => .error .escapeUnfinished
  | ⟨'\x7b' :: rest, h⟩ =>
    (untilBrace blanks rest).map fun (cs, r) =>
      (query cs, ⟨r.1, by have := r.2; simp only [List.length_cons] at h; omega⟩)
  | ⟨c :: rest, h⟩ =>
    if c = '\\' then .error .propertyInvalid
    else .ok (.named (String.ofList [c]), ⟨rest, by simp only [List.length_cons] at h; omega⟩)

/-- The boundary of a name. -/
def boundaryOfName? : String → Option Boundary
  | "start" => some .start
  | "end" => some .finish
  | "start-half" => some .startHalf
  | "end-half" => some .finishHalf
  | _ => none

/-- The leading letters and hyphens of a text. -/
def boundaryName (blanks : Bool) (text : List Char) : List Char × NotLonger text :=
  match text with
  | [] => ([], .refl [])
  | c :: rest =>
    if c.isAlpha || c == '-' then
      let after := skip blanks rest
      let (cs, r) := boundaryName blanks after.1
      (c :: cs, (after.trans r).cons c)
    else ([], .refl (c :: rest))
termination_by text.length
decreasing_by have := (skip blanks rest).2; simp only [List.length_cons]; omega

/-- What may follow the escape of a word boundary: a name in braces makes it a special one. Braces
that do not begin with a letter or hyphen are left for a repetition. -/
def boundary (blanks : Bool) (text : List Char) :
    Except PatternFault (Boundary × NotLonger text) :=
  match text with
  | '\x7b' :: rest =>
    match skip blanks rest with
    | ⟨[], _⟩ => .error .boundaryUnfinished
    | ⟨c :: more, h⟩ =>
      if c.isAlpha || c == '-' then
        match boundaryName blanks (c :: more) with
        | (name, ⟨'\x7d' :: after, ha⟩) =>
          match boundaryOfName? (String.ofList name) with
          | some kind =>
            .ok (kind, ⟨after, by simp only [List.length_cons] at ha h ⊢; omega⟩)
          | none => .error .boundaryUnknown
        | _ => .error .boundaryUnclosed
      else .ok (.any, .refl _)
  | text => .ok (.any, .refl text)

/-- The characters with a meaning of their own in patterns. -/
def isMeta (c : Char) : Bool :=
  ['\\', '.', '+', '*', '?', '(', ')', '|', '[', ']', '\x7b', '\x7d', '^', '$', '#', '&', '-',
    '~'].contains c

/-- Whether a character may be escaped to stand for itself: any of ASCII but letters, digits and
angle brackets. -/
def isEscapable (c : Char) : Bool :=
  isMeta c || (c.toNat < 128 && !c.isAlphanum && c != '<' && c != '>')

/-- What an escape stands for, after the backslash. -/
def escape (blanks unicode : Bool) (text : List Char) :
    Except PatternFault (Atom × NotLonger text) :=
  match text with
  | [] => .error .escapeUnfinished
  | c :: rest =>
    let numbered (count : Nat) : Except PatternFault (Atom × NotLonger (c :: rest)) :=
      (hex blanks count rest).map fun ((d, plain), r) =>
        (.literal d (plain && count == 2), r.cons c)
    let ofProperty (negated : Bool) : Except PatternFault (Atom × NotLonger (c :: rest)) :=
      (property blanks rest).map fun (q, r) => (.chars (.negateIf negated (.property q)), r.cons c)
    let simple (atom : Atom) : Except PatternFault (Atom × NotLonger (c :: rest)) :=
      .ok (atom, (NotLonger.refl rest).cons c)
    match c with
    | 'x' => numbered 2
    | 'u' => numbered 4
    | 'U' => numbered 8
    | 'p' => ofProperty false
    | 'P' => ofProperty true
    | 'd' => simple (.chars (.shorthand .digit))
    | 's' => simple (.chars (.shorthand .space))
    | 'w' => simple (.chars (.shorthand .word))
    | 'D' => simple (.chars (.complement (.shorthand .digit)))
    | 'S' => simple (.chars (.complement (.shorthand .space)))
    | 'W' => simple (.chars (.complement (.shorthand .word)))
    | 'a' => simple (.literal '\x07' false)
    | 'f' => simple (.literal '\x0c' false)
    | 't' => simple (.literal '\t' false)
    | 'n' => simple (.literal '\n' false)
    | 'r' => simple (.literal '\r' false)
    | 'v' => simple (.literal '\x0b' false)
    | 'A' => simple (.anchor .textStart)
    | 'z' => simple (.anchor .textEnd)
    | 'b' =>
      (boundary blanks rest).map fun (kind, r) => (.anchor (.boundary kind unicode), r.cons c)
    | '<' => simple (.anchor (.boundary .start unicode))
    | '>' => simple (.anchor (.boundary .finish unicode))
    | 'B' => simple (.anchor (.boundary .none unicode))
    | c =>
      if c.isDigit then .error .backreference
      else if isEscapable c then simple (.literal c false)
      else .error .escapeUnknown

end PatternText

end JsonShape
