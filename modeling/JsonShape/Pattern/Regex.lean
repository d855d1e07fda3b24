import JsonShape.Pattern.CharSet

/-!
# Regular expressions and where they match

Positions of a text are counted in characters, from zero to its length. `Regex.reach` takes the
positions at which a match may begin to those at which it may end; a pattern is found in a text if
some match begins at any position. Whether a repetition prefers many or few rounds does not change
this and is not kept.

A repetition of an expression can be cut off after one more round than the text has
characters: a longer run has a round that consumes nothing, and it can be left out or repeated.
-/

namespace JsonShape

/-- The kinds of word boundaries. -/
inductive Boundary
  | any | none | start | finish | startHalf | finishHalf
deriving DecidableEq, Repr

/-- A condition on a position. -/
inductive Anchor
  | textStart
  | textEnd
  | lineStart (crlf : Bool)
  | lineEnd (crlf : Bool)
  | boundary (kind : Boundary) (unicode : Bool)
deriving DecidableEq, Repr

/-- A regular expression. -/
inductive Regex
  | empty
  | set (mode : CharMode) (chars : CharSet)
  | anchor (condition : Anchor)
  | seq (first second : Regex)
  | alt (first second : Regex)
  | rep (least : Nat) (most : Option Nat) (body : Regex)
deriving DecidableEq, Repr

/-- Whether an anchor holds between the character before a position and the one after it. -/
def Anchor.holds (before after : Option Char) : Anchor → Bool
  | textStart => before.isNone
  | textEnd => after.isNone
  | lineStart false => before.all (· == '\n')
  | lineStart true =>
    before.all fun c => c == '\n' || (c == '\r' && after != some '\n')
  | lineEnd false => after.all (· == '\n')
  | lineEnd true =>
    after.all fun c => c == '\r' || (c == '\n' && before != some '\r')
  | boundary kind unicode =>
    let left := before.any fun c => Shorthand.word.contains unicode c
    let right := after.any fun c => Shorthand.word.contains unicode c
    match kind with
    | .any => left != right
    | .none => left == right
    | .start => !left && right
    | .finish => left && !right
    | .startHalf => !left
    | .finishHalf => !right

namespace Regex

/-- Some positions together with those of others that are new. -/
def join (seen more : List Nat) : List Nat :=
  more.foldl (fun acc p => if acc.contains p then acc else acc ++ [p]) seen

/-- The positions reached in at most some number of rounds. Only those found last lead to new ones.
-/
def closure (round : List Nat → List Nat) : (rounds : Nat) → (seen frontier : List Nat) → List Nat
  | 0, seen, _ => seen
  | rounds + 1, seen, frontier =>
    let fresh := (join [] (round frontier)).filter fun p => !seen.contains p
    if fresh.isEmpty then seen else closure round rounds (seen ++ fresh) fresh

/-- The positions reached in exactly some number of rounds. -/
def exactly (round : List Nat → List Nat) : (rounds : Nat) → List Nat → List Nat
  | 0, positions => positions
  | rounds + 1, positions =>
    if positions.isEmpty then [] else exactly round rounds (round positions)

/-- The positions at which a match that begins at one of the given positions may end. -/
def reach (text : Array Char) : Regex → List Nat → List Nat
  | empty, positions => positions
  | set mode chars, positions =>
    positions.filterMap fun p =>
      match text[p]? with
      | some c => if chars.contains mode c then some (p + 1) else none
      | none => none
  | anchor condition, positions =>
    positions.filter fun p => condition.holds (if p = 0 then none else text[p - 1]?) text[p]?
  | seq first second, positions => reach text second (reach text first positions)
  | alt first second, positions => join (reach text first positions) (reach text second positions)
  | rep least most body, positions =>
    let rounds := text.size + 1
    let start := join [] (exactly (reach text body) (min least rounds) positions)
    let further := match most with | some most => min (most - least) rounds | none => rounds
    closure (reach text body) further start start

/-- Whether a match is found somewhere in a text. -/
def isFoundIn (regex : Regex) (text : String) : Bool :=
  let characters := text.toList.toArray
  !(regex.reach characters (List.range (characters.size + 1))).isEmpty

/-! ### Building expressions -/

/-- One expression after the other. -/
def sequence : List Regex → Regex
  | [] => empty
  | [regex] => regex
  | regex :: rest => seq regex (sequence rest)

/-- One expression or the other. -/
def choice : List Regex → Regex
  | [] => empty
  | [regex] => regex
  | regex :: rest => alt regex (choice rest)

/-- An estimate of the number of automaton states that an expression takes. -/
def cost : Regex → Nat
  | empty | anchor _ => 1
  | set mode chars => chars.cost mode.unicode
  | seq first second => first.cost + second.cost
  | alt first second => first.cost + second.cost + 1
  | rep least most body => (most.getD (least + 1)) * body.cost + 1

end Regex

end JsonShape
