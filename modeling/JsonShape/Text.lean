/-!
# What readers of texts share

A reader takes a piece off the front of a text and gives back the rest. The rest comes with a proof
that it is not longer (`NotLonger`), or strictly shorter (`Shorter`), than the text, which is what a
reader that calls itself needs in order to end. The rests of readers that follow one another are put
together here.

A digit has a value in a base up to sixteen (`digitValue?`), and digits one after the other spell a
natural number (`natOfDigits?`).
-/

namespace JsonShape

/-! ### What is left of a text -/

/-- A remaining text strictly shorter than the given one. -/
abbrev Shorter (text : List Char) := { rest : List Char // rest.length < text.length }

/-- A remaining text not longer than the given one. -/
abbrev NotLonger (text : List Char) := { rest : List Char // rest.length ≤ text.length }

namespace NotLonger

/-- Nothing was taken. -/
def refl (text : List Char) : NotLonger text := ⟨text, Nat.le_refl _⟩

/-- The rest of a text is a rest of that text with one more character before it. -/
def cons {text : List Char} (c : Char) (rest : NotLonger text) : NotLonger (c :: text) :=
  ⟨rest.1, Nat.le_succ_of_le rest.2⟩

/-- A rest of a rest. -/
def trans {text : List Char} (rest : NotLonger text) (further : NotLonger rest.1) :
    NotLonger text :=
  ⟨further.1, Nat.le_trans further.2 rest.2⟩

/-- A shorter rest of a rest. -/
def transShorter {text : List Char} (rest : NotLonger text) (further : Shorter rest.1) :
    Shorter text :=
  ⟨further.1, Nat.lt_of_lt_of_le further.2 rest.2⟩

end NotLonger

namespace Shorter

/-- One character was taken. -/
def tail (c : Char) (rest : List Char) : Shorter (c :: rest) := ⟨rest, Nat.lt_succ_self _⟩

/-- A shorter rest is not longer. -/
def notLonger {text : List Char} (rest : Shorter text) : NotLonger text :=
  ⟨rest.1, Nat.le_of_lt rest.2⟩

/-- The rest of a text is shorter than that text with one more character before it. -/
def ofNotLonger {text : List Char} (c : Char) (rest : NotLonger text) : Shorter (c :: text) :=
  ⟨rest.1, Nat.lt_succ_of_le rest.2⟩

/-- A shorter rest stays one if one more character stands before the text. -/
def cons {text : List Char} (c : Char) (rest : Shorter text) : Shorter (c :: text) :=
  ⟨rest.1, Nat.lt_succ_of_lt rest.2⟩

/-- A shorter rest of a text with one more character before it is a rest of that text. -/
def ofCons {c : Char} {text : List Char} (rest : Shorter (c :: text)) : NotLonger text :=
  ⟨rest.1, Nat.le_of_lt_succ rest.2⟩

/-- A rest of a shorter rest. -/
def transNotLonger {text : List Char} (rest : Shorter text) (further : NotLonger rest.1) :
    Shorter text :=
  ⟨further.1, Nat.lt_of_le_of_lt further.2 rest.2⟩

/-- A shorter rest of a shorter rest. -/
def trans {text : List Char} (rest : Shorter text) (further : Shorter rest.1) : Shorter text :=
  ⟨further.1, Nat.lt_trans further.2 rest.2⟩

end Shorter

/-! ### Numbers written in digits -/

/-- The value of a digit of a base up to sixteen. -/
def digitValue? (base : Nat) (c : Char) : Option Nat :=
  let value :=
    if c.isDigit then c.toNat - 48
    else if 'a' ≤ c ∧ c ≤ 'f' then c.toNat - 87
    else if 'A' ≤ c ∧ c ≤ 'F' then c.toNat - 55
    else 16
  if value < base then some value else none

/-- The number that digits of a base spell, if there are any and they are nothing else. -/
def natOfDigits? (base : Nat) (digits : List Char) : Option Nat :=
  if digits.isEmpty then none
  else digits.foldlM (fun n c => (digitValue? base c).map (base * n + ·)) 0

/-- The number that decimal digits spell. -/
def natOfDigits (digits : List Char) : Nat := (natOfDigits? 10 digits).getD 0

end JsonShape
