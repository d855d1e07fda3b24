import JsonShape.Json.Basic
import Mathlib.Data.Int.Order.Basic

/-!
# Rounding to binary64

A quotient is rounded to 53 bits at the exponent that leaves as many before the point. `nearest` is
the number of units that this gives when the exponent has no bound; what lies beyond the largest
finite number is cut off there.

Main statements: the binary64 number nearest to an integer grows with the integer
(`Binary64.units_ofInt_mono`), and is the integer itself up to `2 ^ 53`
(`Binary64.units_ofInt_of_le`).
-/

namespace JsonShape

theorem twoPow_add (m n : Nat) : twoPow (m + n) = twoPow m * twoPow n := Nat.pow_add 2 m n

theorem twoPow_pos (n : Nat) : 0 < twoPow n := Nat.two_pow_pos n

theorem twoPow_le {m n : Nat} (h : m ≤ n) : twoPow m ≤ twoPow n :=
  Nat.pow_le_pow_right Nat.two_pos h

namespace Binary64

theorem one_pos : 0 < (one : Int) := Int.natCast_pos.mpr (twoPow_pos 1074)

theorem mul_one_le_iff {m n : Int} : m * one ≤ n * one ↔ m ≤ n :=
  Int.mul_le_mul_iff_of_pos_right one_pos

theorem mul_one_lt_iff {m n : Int} : m * one < n * one ↔ m < n :=
  Int.mul_lt_mul_right one_pos

/-! ### Division to the nearest integer -/

/-- A quotient is rounded to one of the two integers around it. -/
theorem roundDiv_bounds (num den : Nat) :
    num / den ≤ roundDiv num den ∧ roundDiv num den ≤ num / den + 1 := by
  unfold roundDiv
  dsimp only
  split
  · omega
  · split <;> omega

theorem roundDiv_mono {num num' den : Nat} (h : num ≤ num') :
    roundDiv num den ≤ roundDiv num' den := by
  have hquotient : num / den ≤ num' / den := Nat.div_le_div_right h
  rcases Nat.lt_or_eq_of_le hquotient with hless | heq
  · have := (roundDiv_bounds num den).2
    have := (roundDiv_bounds num' den).1
    omega
  · -- between the same two integers the remainder decides
    have hnum := Nat.div_add_mod num den
    have hnum' := Nat.div_add_mod num' den
    rw [← heq] at hnum'
    unfold roundDiv
    dsimp only
    rw [← heq]
    generalize num / den = q at hnum hnum' ⊢
    generalize den * q = product at hnum hnum'
    split_ifs <;> omega

theorem roundDiv_mul (k : Nat) {den : Nat} (hden : 0 < den) : roundDiv (k * den) den = k := by
  unfold roundDiv
  dsimp only
  rw [Nat.mul_mod_left, Nat.mul_div_cancel k hden, if_pos (by omega)]

/-! ### The exponent -/

/-- The exponent at which a quotient is rounded. -/
def roundingExponent (num den : Nat) : Nat := (num / den).log2 - 52

/-- The units of a quotient after rounding, however large it is. -/
def nearest (num den : Nat) : Nat :=
  roundDiv num (den * twoPow (roundingExponent num den)) * twoPow (roundingExponent num den)

theorem roundingExponent_mono {num num' den : Nat} (h : num ≤ num') :
    roundingExponent num den ≤ roundingExponent num' den := by
  have hquotient : num / den ≤ num' / den := Nat.div_le_div_right h
  unfold roundingExponent
  by_cases hzero : num / den = 0
  · simp [hzero]
  · have hzero' : num' / den ≠ 0 :=
      Nat.ne_of_gt (Nat.lt_of_lt_of_le (Nat.pos_of_ne_zero hzero) hquotient)
    have hlog : (num / den).log2 ≤ (num' / den).log2 :=
      (Nat.le_log2 hzero').mpr (Nat.le_trans (Nat.log2_self_le hzero) hquotient)
    omega

/-- The significand has at most 53 bits, and 53 of them unless the exponent is the least one. -/
theorem significand_bounds (num den : Nat) :
    roundDiv num (den * twoPow (roundingExponent num den)) ≤ twoPow 53
      ∧ (roundingExponent num den = 0
        ∨ twoPow 52 ≤ roundDiv num (den * twoPow (roundingExponent num den))) := by
  obtain ⟨hlower, hupper⟩ := roundDiv_bounds num (den * twoPow (roundingExponent num den))
  rw [← Nat.div_div_eq_div_mul] at hlower hupper
  have hpos := twoPow_pos (roundingExponent num den)
  have hlog : num / den < twoPow (53 + roundingExponent num den) := by
    refine Nat.lt_of_lt_of_le Nat.lt_log2_self (twoPow_le ?_)
    unfold roundingExponent
    omega
  have hless : num / den / twoPow (roundingExponent num den) < twoPow 53 := by
    rw [Nat.div_lt_iff_lt_mul hpos, ← twoPow_add]
    exact hlog
  refine ⟨by omega, ?_⟩
  by_cases hzero : roundingExponent num den = 0
  · exact .inl hzero
  · refine .inr (Nat.le_trans ?_ hlower)
    rw [Nat.le_div_iff_mul_le hpos, ← twoPow_add]
    unfold roundingExponent at hzero ⊢
    have hquotient : num / den ≠ 0 := by
      intro h
      rw [h] at hzero
      exact hzero rfl
    refine Nat.le_trans (twoPow_le ?_) (Nat.log2_self_le hquotient)
    omega

theorem nearest_mono {num num' den : Nat} (h : num ≤ num') :
    nearest num den ≤ nearest num' den := by
  have hexponent : roundingExponent num den ≤ roundingExponent num' den := roundingExponent_mono h
  rcases Nat.lt_or_eq_of_le hexponent with hless | heq
  · -- a smaller exponent leaves at most `2 ^ 53` of its steps, a greater one at least `2 ^ 52`
    have hupper := (significand_bounds num den).1
    have hlower := (significand_bounds num' den).2.resolve_left (by omega)
    calc nearest num den
        ≤ twoPow 53 * twoPow (roundingExponent num den) := Nat.mul_le_mul_right _ hupper
      _ = twoPow (53 + roundingExponent num den) := (twoPow_add ..).symm
      _ ≤ twoPow (52 + roundingExponent num' den) := twoPow_le (by omega)
      _ = twoPow 52 * twoPow (roundingExponent num' den) := twoPow_add ..
      _ ≤ nearest num' den := Nat.mul_le_mul_right _ hlower
  · unfold nearest
    rw [heq]
    exact Nat.mul_le_mul_right _ (roundDiv_mono h)

/-- What is a multiple of the steps at its exponent is not rounded. -/
theorem nearest_of_dvd {num : Nat} (h : twoPow (roundingExponent num 1) ∣ num) :
    nearest num 1 = num := by
  obtain ⟨k, hk⟩ := h
  rw [Nat.mul_comm] at hk
  have hround : roundDiv num (1 * twoPow (roundingExponent num 1)) = k := by
    rw [Nat.one_mul]
    conv_lhs => arg 1; rw [hk]
    exact roundDiv_mul k (twoPow_pos _)
  rw [nearest, hround, ← hk]

theorem dvd_of_lt {k n : Nat} (h : k < twoPow 53) :
    twoPow (roundingExponent (k * twoPow n) 1) ∣ k * twoPow n := by
  have hexponent : roundingExponent (k * twoPow n) 1 ≤ n := by
    unfold roundingExponent
    rw [Nat.div_one]
    by_cases hzero : k * twoPow n = 0
    · simp [hzero]
    · have hless : k * twoPow n < twoPow (53 + n) := by
        rw [twoPow_add]
        exact Nat.mul_lt_mul_of_pos_right h (twoPow_pos n)
      have hlog := (Nat.log2_lt hzero).mpr hless
      omega
  exact Nat.dvd_mul_left_of_dvd (Nat.pow_dvd_pow 2 hexponent) k

/-- What has no more than 53 bits is not rounded. -/
theorem nearest_eq_self {k n : Nat} (h : k ≤ twoPow 53) :
    nearest (k * twoPow n) 1 = k * twoPow n := by
  rcases Nat.lt_or_eq_of_le h with hless | rfl
  · exact nearest_of_dvd (dvd_of_lt hless)
  · have hshift : twoPow 53 * twoPow n = twoPow 52 * twoPow (n + 1) := by
      rw [← twoPow_add, ← twoPow_add]
      congr 1
      omega
    rw [hshift]
    exact nearest_of_dvd (dvd_of_lt (by decide))

/-! ### The rounded number -/

theorem magnitude_le_largest (x : Binary64) (negative : Bool) :
    x.magnitude ≤ (largest negative).magnitude := by
  have hsignificand : x.significand ≤ twoPow 53 - 1 := Nat.le_sub_one_of_lt x.canonical.1
  exact Nat.mul_le_mul hsignificand (twoPow_le x.canonical.2.1)

theorem magnitude_of_round {negative : Bool} {num den : Nat} {x : Binary64}
    (h : round negative num den = some x) : x.magnitude = nearest num den := by
  obtain ⟨hupper, hlower⟩ := significand_bounds num den
  unfold round at h
  dsimp only at h
  split at h
  · cases h
    rfl
  · next hfull =>
    split at h
    · next hexponent =>
      cases h
      -- only the bound on the significand can have failed, which is then a power of two
      have heq : roundDiv num (den * twoPow (roundingExponent num den)) = twoPow 53 := by
        refine Nat.le_antisymm hupper (Nat.le_of_not_lt fun hless => hfull ⟨hless, ?_, hlower⟩)
        exact Nat.le_of_succ_le hexponent
      show twoPow 52 * twoPow (roundingExponent num den + 1) = _
      rw [nearest, heq, ← twoPow_add, ← twoPow_add]
      congr 1
      omega
    · cases h

/-- Where there is no rounded number, it would be larger than the largest one. -/
theorem largest_le_of_round {negative : Bool} {num den : Nat}
    (h : round negative num den = none) : (largest negative).magnitude ≤ nearest num den := by
  obtain ⟨hupper, hlower⟩ := significand_bounds num den
  unfold round at h
  dsimp only at h
  split at h
  · cases h
  · next hfull =>
    split at h
    · cases h
    · next hexponent =>
      have hlarge : 2045 ≤ roundingExponent num den := by
        have : ¬ roundingExponent num den + 1 ≤ 2045 := hexponent
        omega
      show (twoPow 53 - 1) * twoPow 2045 ≤ nearest num den
      rcases Nat.lt_or_eq_of_le hlarge with hless | heq
      · calc (twoPow 53 - 1) * twoPow 2045
            ≤ twoPow 53 * twoPow 2045 := Nat.mul_le_mul_right _ (Nat.sub_le _ _)
          _ = twoPow (53 + 2045) := (twoPow_add ..).symm
          _ ≤ twoPow (52 + roundingExponent num den) := twoPow_le (by omega)
          _ = twoPow 52 * twoPow (roundingExponent num den) := twoPow_add ..
          _ ≤ nearest num den := Nat.mul_le_mul_right _ (hlower.resolve_left (by omega))
      · have hround : twoPow 53 ≤ roundDiv num (den * twoPow (roundingExponent num den)) :=
          Nat.le_of_not_lt fun hless => hfull ⟨hless, Nat.le_of_eq heq.symm, hlower⟩
        unfold nearest
        rw [← heq] at hround ⊢
        exact Nat.mul_le_mul_right _ (Nat.le_trans (Nat.sub_le _ _) hround)

theorem negative_round {negative : Bool} {num den : Nat} {x : Binary64}
    (h : round negative num den = some x) : x.negative = negative := by
  unfold round at h
  dsimp only at h
  split at h
  · cases h
    rfl
  · split at h
    · cases h
      rfl
    · cases h

/-! ### Integers -/

theorem negative_ofInt (i : Int) : (ofInt i).negative = decide (i < 0) := by
  unfold ofInt
  cases h : round (decide (i < 0)) (i.natAbs * one) 1 with
  | none => rfl
  | some x => exact negative_round h

/-- An integer becomes the nearest number of units, or the largest finite number. -/
theorem magnitude_ofInt (i : Int) :
    (ofInt i).magnitude = min (nearest (i.natAbs * one) 1) (largest false).magnitude := by
  unfold ofInt
  cases h : round (decide (i < 0)) (i.natAbs * one) 1 with
  | none => exact (Nat.min_eq_right (largest_le_of_round h)).symm
  | some x =>
    rw [Option.getD_some, ← magnitude_of_round h]
    exact (Nat.min_eq_left (magnitude_le_largest x false)).symm

theorem magnitude_ofInt_mono {i j : Int} (h : i.natAbs ≤ j.natAbs) :
    (ofInt i).magnitude ≤ (ofInt j).magnitude := by
  rw [magnitude_ofInt, magnitude_ofInt]
  have hnearest : nearest (i.natAbs * one) 1 ≤ nearest (j.natAbs * one) 1 :=
    nearest_mono (Nat.mul_le_mul_right one h)
  omega

theorem units_ofInt (i : Int) :
    (ofInt i).units = if i < 0 then -((ofInt i).magnitude : Int) else (ofInt i).magnitude := by
  rw [units, negative_ofInt]
  simp

theorem units_ofInt_nonneg (count : Nat) : 0 ≤ (ofInt count).units := by
  rw [units_ofInt, if_neg (by omega)]
  exact Int.natCast_nonneg _

/-- The order of integers is kept, except that different ones may become equal. -/
theorem units_ofInt_mono {i j : Int} (h : i ≤ j) : (ofInt i).units ≤ (ofInt j).units := by
  rw [units_ofInt, units_ofInt]
  split_ifs with hi hj hj
  · have := magnitude_ofInt_mono (i := j) (j := i) (by omega)
    omega
  · omega
  · omega
  · have := magnitude_ofInt_mono (i := i) (j := j) (by omega)
    omega

theorem units_ofInt_of_magnitude {i : Int} (h : (ofInt i).magnitude = i.natAbs * one) :
    (ofInt i).units = i * one := by
  rw [units_ofInt, h, Int.natCast_mul]
  split_ifs with hi
  · rw [show (i.natAbs : Int) = -i by omega, Int.neg_mul, Int.neg_neg]
  · rw [show (i.natAbs : Int) = i by omega]

/-- Integers up to `2 ^ 53` are held exactly. -/
theorem units_ofInt_of_le {i : Int} (h : i.natAbs ≤ twoPow 53) : (ofInt i).units = i * one := by
  apply units_ofInt_of_magnitude
  rw [magnitude_ofInt, one, nearest_eq_self h]
  refine Nat.min_eq_left (Nat.le_trans (Nat.mul_le_mul_right _ h) ?_)
  decide +kernel

theorem natAbs_units (x : Binary64) : x.units.natAbs = x.magnitude := by
  unfold units
  split <;> simp

/-- An integer that is the value of a binary64 number is held exactly. -/
theorem units_ofInt_of_units_eq {i : Int} {x : Binary64} (h : x.units = i * one) :
    (ofInt i).units = i * one := by
  have hmagnitude : i.natAbs * one = x.magnitude := by
    rw [← natAbs_units, h, Int.natAbs_mul, Int.natAbs_natCast]
  apply units_ofInt_of_magnitude
  rw [magnitude_ofInt, hmagnitude, magnitude, nearest_eq_self (Nat.le_of_lt x.canonical.1)]
  exact Nat.min_eq_left (magnitude_le_largest x false)

end Binary64

end JsonShape
