import JsonShape.Pattern.Bracket
import JsonShape.Pattern.Group

/-!
# From the text of a pattern to its expression

An expression is a choice of branches, a branch a sequence of pieces. `PatternText.expression` reads
one up to the parenthesis that closes it, or to the end. Flags that are set without a group hold for
the rest of the enclosing one, its later branches included.

A pattern is refused for a fault in how it is written, then for being nested too deep, then for the
first fault in what its pieces mean, then for its size. `Regex.compile` keeps to this order.
-/

namespace JsonShape

/-- An expression with its nesting depth, and whether it can be repeated. -/
structure Piece where
  regex : Regex
  depth : Nat := 0
  repeatable : Bool := true

/-- What was read of an expression. -/
structure Draft where
  flags : PatternFlags := {}
  /-- The names of groups in use. -/
  names : List String := []
  /-- The first fault in the meaning of what was read. -/
  refused : Option PatternFault := none
  branches : List Piece := []
  pieces : List Piece := []

namespace Draft

/-- Add a piece to the branch. -/
def push (draft : Draft) (piece : Piece) : Draft := { draft with pieces := draft.pieces ++ [piece] }

/-- The piece that several make together, one more level deep if there is more than one. -/
def together (combine : List Regex → Regex) (pieces : List Piece) : Piece :=
  let depth := pieces.foldl (fun depth piece => max depth piece.depth) 0
  { regex := combine (pieces.map Piece.regex),
    depth := if 1 < pieces.length then depth + 1 else depth }

/-- Begin another branch. -/
def branch (draft : Draft) : Draft :=
  { draft with branches := draft.branches ++ [together .sequence draft.pieces], pieces := [] }

/-- The choice of all branches. -/
def finish (draft : Draft) : Piece := together .choice draft.branch.branches

/-- The last piece, if it can be repeated, and the draft without it. -/
def takeLast? (draft : Draft) : Option (Piece × Draft) :=
  match draft.pieces.getLast? with
  | some piece =>
    if piece.repeatable then some (piece, { draft with pieces := draft.pieces.dropLast }) else none
  | none => none

/-- Repeat a piece. -/
def pushRepeated (draft : Draft) (least : Nat) (most : Option Nat) (piece : Piece) : Draft :=
  draft.push { regex := .rep least most piece.regex, depth := piece.depth + 1 }

/-- How sets are read where the draft goes on. -/
def mode (draft : Draft) : CharMode := ⟨draft.flags.caseless, draft.flags.unicode⟩

/-- Add a set at a nesting depth. Outside Unicode mode a set may only hold characters of ASCII. -/
def pushSet (draft : Draft) (set : CharSet) (depth : Nat) : Draft :=
  let beyond := if !draft.flags.unicode && set.contains draft.mode '\x80' then
    some PatternFault.notUtf8 else none
  { draft.push { regex := .set draft.mode set, depth := depth } with
    refused := draft.refused.or ((set.fault? draft.flags.unicode).or beyond) }

/-- Add a character. -/
def pushLiteral (draft : Draft) (c : Char) (asByte : Bool) : Draft :=
  let beyond := if !draft.flags.unicode && asByte && 127 < c.toNat then
    some PatternFault.notUtf8 else none
  { draft.push { regex := .set draft.mode (.single c) } with refused := draft.refused.or beyond }

/-- Add what stands for any character, or any but a line break. -/
def pushDot (draft : Draft) : Draft :=
  let breaks : CharSet :=
    if draft.flags.dotAll then .empty
    else if draft.flags.crlf then .union (.single '\r') (.single '\n')
    else .single '\n'
  { draft.push { regex := .set draft.mode (.complement breaks) } with
    refused := draft.refused.or (if draft.flags.unicode then none else some .notUtf8) }

/-- Add a condition. -/
def pushAnchor (draft : Draft) (condition : Anchor) : Draft :=
  draft.push { regex := .anchor condition }

/-- Add what an escape stands for. -/
def pushAtom (draft : Draft) : Atom → Draft
  | .literal c asByte => draft.pushLiteral c asByte
  | .chars set => draft.pushSet set 0
  | .anchor condition => draft.pushAnchor condition

/-- Set flags for what follows. The change stands between pieces but cannot be repeated. -/
def change (draft : Draft) (change : FlagChange) : Draft :=
  { draft.push { regex := .empty, repeatable := false } with flags := change.apply draft.flags }

/-- The draft of the expression in a group. -/
def inside (draft : Draft) (head : GroupHead) : Draft :=
  { flags := match head with
      | .flagged change => change.apply draft.flags
      | _ => draft.flags,
    names := match head with
      | .named name => draft.names ++ [name]
      | _ => draft.names,
    refused := draft.refused }

/-- Add the group that an expression makes. -/
def pushGroup (draft inner : Draft) : Draft :=
  let piece := inner.finish
  { draft.push { piece with depth := piece.depth + 1 } with
    names := inner.names, refused := inner.refused }

end Draft

namespace PatternText

/-- Drop the question mark that makes a repetition lazy. -/
def skipLazy (text : List Char) : NotLonger text :=
  match text with
  | '?' :: rest => (NotLonger.refl rest).cons '?'
  | text => .refl text

/-- A repetition in braces, after the opening one. -/
def counted (draft : Draft) (text : List Char) : Except PatternFault (Draft × NotLonger text) :=
  match draft.takeLast? with
  | none => .error .repetitionMissing
  | some (piece, draft) =>
    match bounds draft.flags.blanks text with
    | .error fault => .error fault
    | .ok ((least, most), r) =>
      let after := r.trans (skip draft.flags.blanks r.1)
      let rest := after.trans (skipLazy after.1)
      if most.any (· < least) then .error .repetitionInvalid
      else .ok (draft.pushRepeated least most piece, rest)

/-- A repetition of one character. -/
def repeated (draft : Draft) (least : Nat) (most : Option Nat) (text : List Char) :
    Except PatternFault (Draft × NotLonger text) :=
  match draft.takeLast? with
  | none => .error .repetitionMissing
  | some (piece, draft) => .ok (draft.pushRepeated least most piece, skipLazy text)

/-- What a character begins that is not a parenthesis, together with the text after it. -/
def token (draft : Draft) (c : Char) (text : List Char) :
    Except PatternFault (Draft × NotLonger text) :=
  let flags := draft.flags
  match c with
  | '|' => .ok (draft.branch, .refl text)
  | '[' =>
    (bracket flags.blanks flags.unicode text).map fun (nested, r) =>
      (draft.pushSet nested.set nested.depth, r)
  | '?' => repeated draft 0 (some 1) text
  | '*' => repeated draft 0 none text
  | '+' => repeated draft 1 none text
  | '\x7b' => counted draft text
  | '\\' => (escape flags.blanks flags.unicode text).map fun (atom, r) => (draft.pushAtom atom, r)
  | '.' => .ok (draft.pushDot, .refl text)
  | '^' => .ok (draft.pushAnchor (if flags.multiline then .lineStart flags.crlf else .textStart),
      .refl text)
  | '$' => .ok (draft.pushAnchor (if flags.multiline then .lineEnd flags.crlf else .textEnd),
      .refl text)
  | c => .ok (draft.pushLiteral c false, .refl text)

/-- The rest of an expression up to its closing parenthesis, which is left, or to the end. -/
def expression (draft : Draft) (text : List Char) :
    Except PatternFault (Draft × NotLonger text) :=
  match skip draft.flags.blanks text with
  | ⟨[], h⟩ => .ok (draft, ⟨[], h⟩)
  | ⟨c :: rest, h⟩ =>
    have shorter : rest.length < text.length := by simp only [List.length_cons] at h; omega
    let proceed (draft : Draft) (after : List Char) (ha : after.length < text.length) :
        Except PatternFault (Draft × NotLonger text) :=
      (expression draft after).map fun (draft, r) =>
        (draft, ⟨r.1, Nat.le_trans r.2 (Nat.le_of_lt ha)⟩)
    if c = ')' then .ok (draft, ⟨c :: rest, h⟩)
    else if c = '(' then
      let start := skip draft.flags.blanks rest
      match groupHead draft.names start.1 with
      | .error fault => .error fault
      | .ok (.change change, r) =>
        proceed (draft.change change) r.1
          (Nat.lt_of_le_of_lt (Nat.le_trans r.2 start.2) shorter)
      | .ok (head, r) =>
        have hr : r.1.length < text.length :=
          Nat.lt_of_le_of_lt (Nat.le_trans r.2 start.2) shorter
        match expression (draft.inside head) r.1 with
        | .error fault => .error fault
        -- the inner expression stops at a parenthesis or at the end; only the former closes it
        | .ok (_, ⟨[], _⟩) => .error .groupUnclosed
        | .ok (inner, ⟨_ :: after, ha⟩) =>
          proceed (draft.pushGroup inner) after (by simp only [List.length_cons] at ha; omega)
    else
      match token draft c rest with
      | .error fault => .error fault
      | .ok (draft, ⟨after, ha⟩) => proceed draft after (Nat.lt_of_le_of_lt ha shorter)
termination_by text.length

/-- How deep a pattern may be nested. -/
def depthLimit : Nat := 250

/-- The size a compiled pattern may have, in bytes. -/
def sizeLimit : Nat := 10485760

/-- The estimated size of an automaton state in bytes. -/
def stateSize : Nat := 32

end PatternText

/-- The expression of a pattern, or why it is refused. -/
def Regex.compile (pattern : String) : Except PatternFault Regex :=
  match PatternText.expression {} pattern.toList with
  | .error fault => .error fault
  | .ok (_, ⟨_ :: _, _⟩) => .error .groupUnopened
  | .ok (draft, ⟨[], _⟩) =>
    let piece := draft.finish
    if PatternText.depthLimit < piece.depth then .error .tooNested
    else
      match draft.refused with
      | some fault => .error fault
      | none =>
        if PatternText.sizeLimit < PatternText.stateSize * piece.regex.cost then .error .tooLarge
        else .ok piece.regex

end JsonShape
