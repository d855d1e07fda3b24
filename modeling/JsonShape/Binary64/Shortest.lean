import JsonShape.Binary64.Basic

/-!
# Shortest decimal digits

The digits written for a binary64 number are the fewest whose decimal value rounds back to it, and
among those the ones nearest to its exact value. The decimals that round to a number form an
interval, closed if the significand is even; if a grid of decimals with `n` digits meets that
interval, one of the two grid points next to the number lies in it. So for each `n` from 1 on the
two neighbours are tried, in exact arithmetic, until one lies in the interval. Seventeen digits
always suffice.
-/

namespace JsonShape

/-- A decimal number `digits · 10 ^ exponent`, whose sign is kept apart. -/
structure Decimal where
  digits : Nat
  exponent : Int
deriving DecidableEq, Inhabited

namespace Binary64

/-- The exponent `k` with `10 ^ k ≤ num / den < 10 ^ (k + 1)`, for a positive quotient. -/
def decimalOrder (num den : Nat) : Int :=
  if den ≤ num then (digitCount (num / den) : Int) - 1
  else -(digitCount ((den + num - 1) / num - 1) : Int)

/-- The numerator and denominator of `num / den` divided by `10 ^ k`. -/
def scaleDown (num den : Nat) (k : Int) : Nat × Nat :=
  if 0 ≤ k then (num, den * tenPow k.toNat) else (num * tenPow (-k).toNat, den)

/-- Twice the distances, in units, from the number down and up to the ends of the interval of
values that round to it. Below a power of two the spacing is half as wide. -/
def gaps (x : Binary64) : Nat × Nat :=
  let gap := twoPow x.exponent
  (if x.significand = twoPow 52 ∧ 0 < x.exponent then gap / 2 else gap, gap)

/-- Whether `digits · 10 ^ k` rounds to the positive number `x`. All sides are counted in quarter
units, so that half of the smallest gap is still whole. -/
def roundsTo (x : Binary64) (digits : Nat) (k : Int) : Bool :=
  let (below, above) := gaps x
  let low := 4 * x.magnitude - 2 * below
  let high := 4 * x.magnitude + 2 * above
  let (num, den) : Nat × Nat :=
    if 0 ≤ k then (4 * digits * tenPow k.toNat * one, 1) else (4 * digits * one, tenPow (-k).toNat)
  if x.significand % 2 = 0 then decide (low * den ≤ num ∧ num ≤ high * den)
  else decide (low * den < num ∧ num < high * den)

/-- The decimal of `n` digits nearest to the positive number `x` that rounds to it, if there is one.
-/
def withDigits? (x : Binary64) (n : Nat) : Option Decimal :=
  let k := decimalOrder x.magnitude one - (n - 1 : Nat)
  let (num, den) := scaleDown x.magnitude one k
  let floor := num / den
  let twice := 2 * (num % den)
  let below := roundsTo x floor k
  let above := roundsTo x (floor + 1) k
  -- both neighbours may round to the number: then the nearer one counts, and of two the even one
  if below && (!above || decide (twice < den) || (decide (twice = den) && floor % 2 == 0)) then
    some ⟨floor, k⟩
  else if above then some ⟨floor + 1, k⟩
  else none

/-- The first decimal found from `n` digits on, trying at most `fuel` digit counts. -/
def shortestFrom (x : Binary64) : Nat → Nat → Decimal
  | 0, n => (withDigits? x n).getD default
  | fuel + 1, n =>
    match withDigits? x n with
    | some d => d
    | none => shortestFrom x fuel (n + 1)

/-- A decimal without trailing zero digits, of the same value. -/
def stripZeros (d : Decimal) : Nat → Decimal
  | 0 => d
  | fuel + 1 =>
    if d.digits ≠ 0 ∧ d.digits % 10 = 0 then stripZeros ⟨d.digits / 10, d.exponent + 1⟩ fuel else d

/-- The shortest decimal that rounds to the absolute value of the number. -/
def shortest (x : Binary64) : Decimal :=
  if x.significand = 0 then ⟨0, 0⟩ else stripZeros (shortestFrom x 16 1) 20

end Binary64

end JsonShape
