import JsonShape.Binary64.Basic

/-!
# Binary64 arithmetic with infinities

Sums, products and quotients of finite numbers may leave the finite range, and a bound may itself be
infinite or not a number. `Extended` holds all of these. Each operation is exact with one rounding
at the end.
-/

namespace JsonShape

/-- A binary64 number, an infinity, or the result of an operation that has none. -/
inductive Extended
  | finite (value : Binary64)
  | infinite (negative : Bool)
  | undefined
deriving DecidableEq

namespace Extended

/-- A rounded result, which is infinite when it does not fit. -/
def ofRounded (negative : Bool) : Option Binary64 → Extended
  | some x => finite x
  | none => infinite negative

/-- Strict order; nothing is below or above what is undefined. -/
def lt : Extended → Extended → Bool
  | finite x, finite y => x.lt y
  | finite _, infinite negative => !negative
  | infinite negative, finite _ => negative
  | infinite m, infinite n => m && !n
  | _, _ => false

/-- Strict order or equality; false when a side is undefined. -/
def le : Extended → Extended → Bool
  | undefined, _ => false
  | _, undefined => false
  | x, y => !y.lt x

/-- The rounded difference. -/
def sub : Extended → Extended → Extended
  | finite x, finite y =>
    let d := x.units - y.units
    ofRounded (decide (d < 0)) (Binary64.round (decide (d < 0)) d.natAbs 1)
  | finite _, infinite negative => infinite (!negative)
  | infinite negative, finite _ => infinite negative
  | infinite m, infinite n => if m = n then undefined else infinite m
  | _, _ => undefined

end Extended

namespace Binary64

/-- The rounded product of two finite numbers. -/
def mul (x y : Binary64) : Extended :=
  let negative := x.negative != y.negative
  .ofRounded negative (round negative (x.magnitude * y.magnitude) one)

/-- The rounded quotient of two finite numbers. -/
def div (x y : Binary64) : Extended :=
  let negative := x.negative != y.negative
  if y.significand ≠ 0 then .ofRounded negative (round negative (x.magnitude * one) y.magnitude)
  else if x.significand = 0 then .undefined
  else .infinite negative

end Binary64

end JsonShape
