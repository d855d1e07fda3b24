/-!
# Finite binary64 numbers

A JSON number that is written with a point or an exponent stands for the nearest binary64 number.
Such a number is held exactly: its value is `±significand · 2 ^ exponent`, counted in units of `2 ^
(-1074)`, which is the smallest positive binary64 number. Every finite binary64 number is a whole
number of these units, so comparison is comparison of integers and every operation below is an exact
computation followed by one rounding.

`Binary64.round` is that rounding: to the nearest binary64 number, a tie going to the even
significand, and `none` when the result is too large.
-/

namespace JsonShape

/-- A power of two. -/
def twoPow (n : Nat) : Nat := Nat.pow 2 n

/-- A power of ten. -/
def tenPow (n : Nat) : Nat := Nat.pow 10 n

/-- A finite binary64 number. The significand is normalised: either it has 53 bits or the exponent
is the least one, so that two numbers with the same sign and value are the same. -/
structure Binary64 where
  negative : Bool
  significand : Nat
  exponent : Nat
  canonical : significand < twoPow 53 ∧ exponent ≤ 2045 ∧ (exponent = 0 ∨ twoPow 52 ≤ significand)
deriving DecidableEq

namespace Binary64

/-- The number of units in one. -/
def one : Nat := twoPow 1074

/-- The absolute value in units. -/
def magnitude (x : Binary64) : Nat := x.significand * twoPow x.exponent

/-- The value in units. Both zeros have the value zero. -/
def units (x : Binary64) : Int := if x.negative then -(x.magnitude : Int) else x.magnitude

/-- Zero with the given sign. -/
def zero (negative : Bool) : Binary64 := ⟨negative, 0, 0, by decide⟩

instance : Inhabited Binary64 := ⟨zero false⟩

/-- One half. -/
def half : Binary64 := ⟨false, twoPow 52, 1021, by decide⟩

/-- The largest finite number of the given sign. -/
def largest (negative : Bool) : Binary64 := ⟨negative, twoPow 53 - 1, 2045, by decide⟩

/-! ### Rounding -/

/-- The integer nearest to `num / den`; a tie goes to the even one. -/
def roundDiv (num den : Nat) : Nat :=
  let q := num / den
  let twice := 2 * (num % den)
  if twice < den then q else if den < twice then q + 1 else q + q % 2

/-- The binary64 number nearest to `num / den` units with the given sign, or `none` when the nearest
one would lie beyond the largest finite number. A rounding that carries into a 54th bit is the next
power of two. -/
def round (negative : Bool) (num den : Nat) : Option Binary64 :=
  -- the exponent that leaves 53 bits before the point; subtraction stops at the least one
  let e := (num / den).log2 - 52
  let m := roundDiv num (den * twoPow e)
  if h : m < twoPow 53 ∧ e ≤ 2045 ∧ (e = 0 ∨ twoPow 52 ≤ m) then some ⟨negative, m, e, h⟩
  -- rounding up filled the significand: the value is the next power of two
  else if h : e + 1 ≤ 2045 then
    some ⟨negative, twoPow 52, e + 1, by decide, h, .inr (Nat.le_refl _)⟩
  else none

/-- The binary64 number nearest to an integer; integers beyond the finite range saturate. -/
def ofInt (i : Int) : Binary64 :=
  (round (decide (i < 0)) (i.natAbs * one) 1).getD (largest (decide (i < 0)))

/-- How many decimal digits a positive number has; zero has none. -/
def digitCount (n : Nat) : Nat :=
  if n = 0 then 0 else digitCount (n / 10) + 1

/-- The binary64 number nearest to `±digits · 10 ^ exponent`, or `none` when that is too large.
Numbers far outside the range are settled by their order of magnitude alone. -/
def ofDecimal (negative : Bool) (digits : Nat) (exponent : Int) : Option Binary64 :=
  let order := (digitCount digits : Int) + exponent
  if digits = 0 ∨ order < -330 then some (zero negative)
  else if 320 < order then none
  else if 0 ≤ exponent then round negative (digits * tenPow exponent.toNat * one) 1
  else round negative (digits * one) (tenPow (-exponent).toNat)

/-! ### Comparison -/

/-- Whether two numbers are equal as numbers; the two zeros are. -/
def same (x y : Binary64) : Bool := x.units == y.units

/-- The usual order of numbers. -/
def lt (x y : Binary64) : Bool := decide (x.units < y.units)

/-- The order of numbers that also puts `-0` before `0`. -/
def compareTotal (x y : Binary64) : Ordering :=
  match compare x.units y.units with
  | .eq => compare y.negative x.negative
  | order => order

/-- Whether the value is a whole number. -/
def isWhole (x : Binary64) : Bool := x.magnitude % one == 0

end Binary64

end JsonShape
