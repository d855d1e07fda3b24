import JsonShape.Binary64.Shortest

/-!
# Layout of floating-point text

How the shortest digits of a number are laid out (`FloatLayout.text`) is a decision of the format
that holds them. Positional text always has a point with a digit on either side of it; outside the
positional range a number is written with one digit before the point and an exponent.
-/

namespace JsonShape

/-- The decisions of a format about floating-point text. -/
structure FloatLayout where
  /-- The least decimal order that is written positionally. -/
  leastOrder : Int
  /-- The first decimal order that is too large to be written positionally. -/
  firstLarge : Int
  /-- What stands before a non-negative exponent. -/
  exponentSign : String

namespace FloatLayout

/-- Positional text of `digits · 10 ^ exponent`. -/
def positional (d : Decimal) : String :=
  let text := toString d.digits
  if 0 ≤ d.exponent then text ++ "".pushn '0' d.exponent.toNat ++ ".0"
  else
    let places := (-d.exponent).toNat
    let padded := ("".pushn '0' (places + 1 - text.length) ++ text).toList
    let whole := padded.length - places
    String.ofList (padded.take whole) ++ "." ++ String.ofList (padded.drop whole)

/-- Scientific text of `digits · 10 ^ exponent`. -/
def scientific (layout : FloatLayout) (d : Decimal) : String :=
  let text := (toString d.digits).toList
  let order := d.exponent + (text.length : Int) - 1
  let fraction := text.drop 1
  String.ofList (text.take 1)
    ++ (if fraction.isEmpty then "" else "." ++ String.ofList fraction)
    ++ "e" ++ (if 0 ≤ order then layout.exponentSign else "") ++ toString order

/-- The text of a number. -/
def text (layout : FloatLayout) (x : Binary64) : String :=
  let d := x.shortest
  let order := d.exponent + ((toString d.digits).length : Int) - 1
  (if x.negative then "-" else "")
    ++ (if layout.leastOrder ≤ order ∧ order < layout.firstLarge then positional d
        else layout.scientific d)

end FloatLayout

end JsonShape
