import JsonShape.Pattern.Escape

/-!
# Flags, group heads and repetition counts

The parts of a pattern that stand around expressions: the flags that a group sets for itself or for
what follows it and the names of groups (`PatternText.groupHead`), and counts in braces
(`PatternText.bounds`).
-/

namespace JsonShape

/-- The flags in force at a place of a pattern. -/
structure PatternFlags where
  caseless : Bool := false
  multiline : Bool := false
  dotAll : Bool := false
  unicode : Bool := true
  crlf : Bool := false
  /-- Blanks and comments do not count. -/
  blanks : Bool := false
deriving DecidableEq, Repr

/-- A flag of a pattern. The one that swaps greedy and lazy repetition has no effect on what is
found. -/
inductive PatternFlag
  | caseless | multiline | dotAll | swapGreed | unicode | crlf | blanks
deriving DecidableEq, Repr

namespace PatternFlag

/-- The flag of a letter. -/
def ofChar? : Char → Option PatternFlag
  | 'i' => some caseless
  | 'm' => some multiline
  | 's' => some dotAll
  | 'U' => some swapGreed
  | 'u' => some unicode
  | 'R' => some crlf
  | 'x' => some blanks
  | _ => none

/-- Set or clear a flag. -/
def put (flags : PatternFlags) (value : Bool) : PatternFlag → PatternFlags
  | caseless => { flags with caseless := value }
  | multiline => { flags with multiline := value }
  | dotAll => { flags with dotAll := value }
  | swapGreed => flags
  | unicode => { flags with unicode := value }
  | crlf => { flags with crlf := value }
  | blanks => { flags with blanks := value }

end PatternFlag

/-- The flags that a group names: those it sets and, after a minus sign, those it clears. -/
structure FlagChange where
  set : List PatternFlag := []
  cleared : Option (List PatternFlag) := none

/-- The flags after a change. -/
def FlagChange.apply (change : FlagChange) (flags : PatternFlags) : PatternFlags :=
  let flags := change.set.foldl (fun flags flag => flag.put flags true) flags
  (change.cleared.getD []).foldl (fun flags flag => flag.put flags false) flags

/-- What stands between an opening parenthesis and the expression in it. -/
inductive GroupHead
  /-- A group without flags. -/
  | plain
  /-- A group with a name. -/
  | named (name : String)
  /-- A group with flags of its own. -/
  | flagged (change : FlagChange)
  /-- No group but flags for what follows. -/
  | change (change : FlagChange)

namespace PatternText

/-- Whether a character may stand in the name of a group. -/
def isNameChar (first : Bool) (c : Char) : Bool :=
  c == '_' || Unicode.isAlphabetic c
    || (!first && (c == '.' || c == '[' || c == ']' || Unicode.isNumeric c))

/-- The name of a group up to its closing bracket. -/
def groupName (first : Bool) : (text : List Char) →
    Except PatternFault (List Char × NotLonger text)
  | [] => .error .groupNameUnclosed
  | '>' :: rest => .ok ([], (NotLonger.refl rest).cons '>')
  | c :: rest =>
    if isNameChar first c then (groupName false rest).map fun (cs, r) => (c :: cs, r.cons c)
    else .error .groupNameInvalid

/-- Whether a flag was named already. -/
def FlagChange.mentions (change : FlagChange) (flag : PatternFlag) : Bool :=
  change.set.contains flag || (change.cleared.getD []).contains flag

/-- The flags up to a colon, which begins a group, or a closing parenthesis, which does not. -/
def flagChange (change : FlagChange) : (text : List Char) →
    Except PatternFault ((FlagChange × Bool) × NotLonger text)
  | [] => .error .flagUnfinished
  | c :: rest =>
    if c = ':' || c = ')' then
      if change.cleared = some [] then .error .flagDanglingNegation
      else .ok ((change, c == ':'), (NotLonger.refl rest).cons c)
    else if c = '-' then
      if change.cleared.isSome then .error .flagRepeatedNegation
      else (flagChange { change with cleared := some [] } rest).map fun (x, r) => (x, r.cons c)
    else
      match PatternFlag.ofChar? c with
      | none => .error .flagUnknown
      | some flag =>
        if FlagChange.mentions change flag then .error .flagDuplicate
        else
          let change : FlagChange :=
            match change.cleared with
            | none => { change with set := change.set ++ [flag] }
            | some flags => { change with cleared := some (flags ++ [flag]) }
          (flagChange change rest).map fun (x, r) => (x, r.cons c)

/-- A name in angle brackets that is not among those in use. -/
def freshName (names : List String) (text : List Char) :
    Except PatternFault (GroupHead × NotLonger text) :=
  match groupName true text with
  | .error fault => .error fault
  | .ok (cs, r) =>
    let name := String.ofList cs
    if cs.isEmpty then .error .groupNameEmpty
    else if names.contains name then .error .groupNameDuplicate
    else .ok (.named name, r)

/-- What follows an opening parenthesis. -/
def groupHead (names : List String) : (text : List Char) →
    Except PatternFault (GroupHead × NotLonger text)
  | '?' :: '=' :: _ => .error .lookAround
  | '?' :: '!' :: _ => .error .lookAround
  | '?' :: '<' :: '=' :: _ => .error .lookAround
  | '?' :: '<' :: '!' :: _ => .error .lookAround
  | '?' :: 'P' :: '<' :: rest =>
    (freshName names rest).map fun (head, r) => (head, ((r.cons '<').cons 'P').cons '?')
  | '?' :: '<' :: rest => (freshName names rest).map fun (head, r) => (head, (r.cons '<').cons '?')
  | ['?'] => .error .groupUnclosed
  | '?' :: rest =>
    match flagChange {} rest with
    | .error fault => .error fault
    | .ok ((change, opens), r) =>
      if opens then .ok (.flagged change, r.cons '?')
      -- without any flag the question mark is a repetition of nothing
      else if change.set.isEmpty && change.cleared.isNone then .error .repetitionMissing
      else .ok (.change change, r.cons '?')
  | text => .ok (.plain, .refl text)

/-! ### Counts -/

/-- The leading digits of a text. -/
def countDigits (blanks : Bool) (text : List Char) : List Char × NotLonger text :=
  match text with
  | [] => ([], .refl [])
  | c :: rest =>
    if c.isDigit then
      let after := skip blanks rest
      let (cs, r) := countDigits blanks after.1
      (c :: cs, (after.trans r).cons c)
    else ([], .refl (c :: rest))
termination_by text.length
decreasing_by have := (skip blanks rest).2; simp only [List.length_cons]; omega

/-- Drop white space, which may surround a count. -/
def skipSpace (blanks : Bool) (text : List Char) : NotLonger text :=
  match text with
  | [] => .refl []
  | c :: rest =>
    if Unicode.isWhiteSpace c then
      let after := skip blanks rest
      (after.trans (skipSpace blanks after.1)).cons c
    else .refl (c :: rest)
termination_by text.length
decreasing_by have := (skip blanks rest).2; simp only [List.length_cons]; omega

/-- A count, which has to fit 32 bits. Its fault, if it has one, may be overtaken by a later one. -/
def count (blanks : Bool) (text : List Char) : Except PatternFault Nat × NotLonger text :=
  let start := skipSpace blanks text
  let (cs, after) := countDigits blanks start.1
  let rest := (start.trans after).trans (skipSpace blanks after.1)
  let n := natOfDigits cs
  (if cs.isEmpty then .error .repetitionDecimalEmpty
    else if n < 4294967296 then .ok n else .error .decimalInvalid,
   rest)

/-- The bounds of a counted repetition after its opening brace, up to and including the closing one.
-/
def bounds (blanks : Bool) (text : List Char) :
    Except PatternFault ((Nat × Option Nat) × NotLonger text) :=
  let start := skip blanks text
  if start.1.isEmpty then .error .repetitionUnclosed
  else
    let (least, r) := count blanks start.1
    let read := start.trans r
    let close (bounds : Nat × Option Nat) (read : NotLonger text) :
        Except PatternFault ((Nat × Option Nat) × NotLonger text) :=
      match read with
      | ⟨'\x7d' :: rest, h⟩ => .ok (bounds, ⟨rest, by simp only [List.length_cons] at h; omega⟩)
      | _ => .error .repetitionUnclosed
    match read with
    | ⟨[], _⟩ => .error .repetitionUnclosed
    -- after a comma, an unfinished repetition is reported before a fault of its first count
    | ⟨',' :: after, h⟩ =>
      match skip blanks after with
      | ⟨[], _⟩ => .error .repetitionUnclosed
      | ⟨'\x7d' :: rest, hr⟩ =>
        least.map fun n =>
          ((n, none), ⟨rest, by simp only [List.length_cons] at h hr; omega⟩)
      | ⟨c :: rest, hr⟩ =>
        match least with
        | .error fault => .error fault
        | .ok n =>
          let (most, ⟨last, hl⟩) := count blanks (c :: rest)
          match most with
          | .error fault => .error fault
          | .ok m =>
            close (n, some m) ⟨last, by simp only [List.length_cons] at h hr hl; omega⟩
    | read =>
      match least with
      | .error fault => .error fault
      | .ok n => close (n, some n) read

end PatternText

end JsonShape
