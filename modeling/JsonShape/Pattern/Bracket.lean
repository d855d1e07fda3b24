import JsonShape.Pattern.Escape

/-!
# Bracket classes

A class in brackets (`PatternText.bracket`) is a union of characters, ranges, escapes, named classes
and classes in turn. The operators `&&`, `--` and `~~` bind more loosely than the union and group to
the left. A class comes with its nesting depth, which is limited for a whole pattern.
-/

namespace JsonShape

/-- The operators between unions. -/
inductive SetOperator
  | intersection | difference | symmetricDifference
deriving DecidableEq, Repr

/-- The operator that a doubled character is. -/
def SetOperator.ofChar? : Char → Option SetOperator
  | '&' => some intersection
  | '-' => some difference
  | '~' => some symmetricDifference
  | _ => none

/-- The set that an operator makes of two. -/
def SetOperator.apply : SetOperator → CharSet → CharSet → CharSet
  | intersection => .intersection
  | difference => .difference
  | symmetricDifference => .symmetricDifference

/-- A set with its nesting depth. -/
structure NestedSet where
  set : CharSet
  depth : Nat

/-- The union read so far and what stands before it: a set with an operator. -/
structure BracketState where
  before : Option (NestedSet × SetOperator) := none
  union : CharSet := .empty
  items : Nat := 0
  depth : Nat := 0

namespace BracketState

/-- Add an item to the union. -/
def add (state : BracketState) (item : CharSet) (depth : Nat) : BracketState :=
  { state with
    union := if state.items = 0 then item else .union state.union item
    items := state.items + 1
    depth := max state.depth depth }

/-- The set read so far. -/
def finish (state : BracketState) : NestedSet :=
  let depth := state.depth + (if 1 < state.items then 1 else 0)
  match state.before with
  | none => ⟨state.union, depth⟩
  | some (left, operator) => ⟨operator.apply left.set state.union, max left.depth depth + 1⟩

/-- Begin a new union after an operator. -/
def operate (state : BracketState) (operator : SetOperator) : BracketState :=
  { before := some (state.finish, operator) }

end BracketState

namespace PatternText

/-- The named class that follows an opening bracket, if there is one. -/
def asciiClass? (text : List Char) : Option (CharSet × Shorter text) :=
  match text with
  | ':' :: rest =>
    let (negated, name) : Bool × List Char :=
      match rest with
      | '^' :: name => (true, name)
      | name => (false, name)
    match name.dropWhile (· != ':') with
    | ':' :: ']' :: after =>
      match AsciiClass.ofName? (String.ofList (name.takeWhile (· != ':'))) with
      | some kind =>
        if hs : after.length < (':' :: rest).length then
          some (.negateIf negated (.ascii kind), ⟨after, hs⟩)
        else none
      | none => none
    | _ => none
  | _ => none

/-- The character that decides whether a hyphen is a range operator. -/
def peek (blanks : Bool) (text : List Char) : Option Char :=
  if blanks then
    match text.dropWhile Unicode.isWhiteSpace with
    | '#' :: comment => (comment.dropWhile Unicode.isWhiteSpace).head?.or text.head?
    | rest => rest.head?.or text.head?
  else text.head?

/-- A character or an escape. -/
def atom (blanks unicode : Bool) (c : Char) (rest : List Char) :
    Except PatternFault (Atom × NotLonger rest) :=
  if c = '\\' then escape blanks unicode rest else .ok (.literal c false, .refl rest)

/-- The set of an atom that is not the end of a range. -/
def atomSet : Atom → Except PatternFault CharSet
  | .literal c _ => .ok (.single c)
  | .chars set => .ok set
  | .anchor _ => .error .classEscapeInvalid

/-- The range between two atoms. -/
def atomRange : Atom → Atom → Except PatternFault CharSet
  | .literal first _, .literal last _ =>
    if first ≤ last then .ok (.range first last) else .error .classRangeInvalid
  | _, _ => .error .classRangeLiteral

/-- An atom or a range of a class, of which the first character is given. -/
def rangeItem (blanks unicode : Bool) (c : Char) (rest : List Char) :
    Except PatternFault (CharSet × NotLonger rest) :=
  match atom blanks unicode c rest with
  | .error fault => .error fault
  | .ok (first, ⟨text, h⟩) =>
    match skip blanks text with
    | ⟨[], _⟩ => .error .classUnclosed
    | ⟨'-' :: after, ha⟩ =>
      -- a hyphen before the closing bracket or before another hyphen makes no range
      if peek blanks after == some ']' || peek blanks after == some '-' then
        (atomSet first).map fun set => (set, ⟨'-' :: after, Nat.le_trans ha h⟩)
      else
        match skip blanks after with
        | ⟨[], _⟩ => .error .classUnclosed
        | ⟨d :: more, hm⟩ =>
          match atom blanks unicode d more with
          | .error fault => .error fault
          | .ok (last, ⟨left, hl⟩) =>
            (atomRange first last).map fun set =>
              (set, ⟨left, by simp only [List.length_cons] at ha hm; omega⟩)
    | ⟨after, ha⟩ => (atomSet first).map fun set => (set, ⟨after, Nat.le_trans ha h⟩)

/-- The operator that begins with a character, and what follows it. -/
def operator? (c : Char) (rest : List Char) : Option (SetOperator × NotLonger rest) :=
  match rest with
  | [] => none
  | d :: after =>
    if c = d then
      (SetOperator.ofChar? c).map fun operator => (operator, (NotLonger.refl after).cons d)
    else none

/-- The hyphens at the beginning of a class, which stand for themselves. -/
def leadingHyphens (blanks : Bool) (state : BracketState) (text : List Char) :
    BracketState × NotLonger text :=
  match text with
  | '-' :: rest =>
    let after := skip blanks rest
    let (state, r) := leadingHyphens blanks (state.add (.single '-') 0) after.1
    (state, (after.trans r).cons '-')
  | text => (state, .refl text)
termination_by text.length
decreasing_by have := (skip blanks rest).2; simp only [List.length_cons]; omega

/-- Whether a caret negates a class that begins here, and what follows the caret. -/
def negation (blanks : Bool) {text : List Char} (start : NotLonger text) : Bool × NotLonger text :=
  match start with
  | ⟨'^' :: rest, h⟩ => (true, NotLonger.trans ⟨'^' :: rest, h⟩ ((skip blanks rest).cons '^'))
  | start => (false, start)

/-- The beginning of a class: whether it is negated, and the hyphens or the closing bracket that
stand for themselves there. -/
def opening (blanks : Bool) (text : List Char) : (Bool × BracketState) × NotLonger text :=
  let (negated, start) := negation blanks (skip blanks text)
  let (state, hyphens) := leadingHyphens blanks {} start.1
  match start.trans hyphens with
  | ⟨']' :: rest, h⟩ =>
    -- a closing bracket in the first place stands for itself, unless a hyphen took that place
    if state.items = 0 then
      ((negated, state.add (.single ']') 0),
        NotLonger.trans ⟨']' :: rest, h⟩ ((skip blanks rest).cons ']'))
    else ((negated, state), ⟨']' :: rest, h⟩)
  | after => ((negated, state), after)

mutual

/-- A class after its opening bracket. -/
def bracket (blanks unicode : Bool) (text : List Char) :
    Except PatternFault (NestedSet × NotLonger text) :=
  let ((negated, state), inner) := opening blanks text
  (bracketBody blanks unicode state inner.1).map fun (nested, r) =>
    (⟨.negateIf negated nested.set, nested.depth + 1⟩, inner.trans r)
termination_by 2 * text.length + 1
decreasing_by have := inner.2; omega

/-- The rest of a class up to its closing bracket. -/
def bracketBody (blanks unicode : Bool) (state : BracketState) (text : List Char) :
    Except PatternFault (NestedSet × NotLonger text) :=
  match skip blanks text with
  | ⟨[], _⟩ => .error .classUnclosed
  | ⟨c :: rest, h⟩ =>
    have hlt : rest.length < text.length := by simp only [List.length_cons] at h; omega
    let proceed (state : BracketState) (after : List Char) (ha : after.length < text.length) :
        Except PatternFault (NestedSet × NotLonger text) :=
      (bracketBody blanks unicode state after).map fun (nested, r) =>
        (nested, ⟨r.1, Nat.le_trans r.2 (Nat.le_of_lt ha)⟩)
    if c = '[' then
      -- a bracket with a colon that names no class begins an ordinary inner class
      match asciiClass? rest with
      | some (set, ⟨after, ha⟩) => proceed (state.add set 0) after (Nat.lt_trans ha hlt)
      | none =>
        match bracket blanks unicode rest with
        | .error fault => .error fault
        | .ok (nested, ⟨after, ha⟩) =>
          proceed (state.add nested.set nested.depth) after (Nat.lt_of_le_of_lt ha hlt)
    else if c = ']' then .ok (state.finish, ⟨rest, Nat.le_of_lt hlt⟩)
    else
      match operator? c rest with
      | some (operator, ⟨after, ha⟩) =>
        proceed (state.operate operator) after (Nat.lt_of_le_of_lt ha hlt)
      | none =>
        match rangeItem blanks unicode c rest with
        | .error fault => .error fault
        | .ok (set, ⟨after, ha⟩) =>
          proceed (state.add set 0) after (Nat.lt_of_le_of_lt ha hlt)
termination_by 2 * text.length
decreasing_by all_goals omega

end

end PatternText

end JsonShape
