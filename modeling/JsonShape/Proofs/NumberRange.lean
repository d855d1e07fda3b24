import JsonShape.Proofs.CountRanges
import Mathlib.Tactic.MkIffOfInductiveProp

/-!
# The range of a number

Each lower bound of a number is compared with each upper one, and a pair passes if it leaves room
for a whole number: with `0`, `1` or `2` between the bounds as none, one or both of them are
exclusive. A whole bound is read as the outermost integer that it allows; a pair then passes if
these ends are in order, and if all pairs are, one integer lies between all of them.

Main statement: `Schema.reports_minMax_iff`, for whole bounds up to `2 ^ 53` the range of a number
is reported exactly if no integer lies within all the bounds.
-/

namespace JsonShape

/-! ### Integers between ends -/

/-- An integer lies between some lower and some upper ends if no two of them cross. -/
theorem exists_between_iff {lows highs : List Int} :
    (∃ n, (∀ low ∈ lows, low ≤ n) ∧ ∀ high ∈ highs, n ≤ high) ↔
      ∀ low ∈ lows, ∀ high ∈ highs, low ≤ high := by
  constructor
  · rintro ⟨n, hlows, hhighs⟩ low hlow high hhigh
    exact Int.le_trans (hlows low hlow) (hhighs high hhigh)
  -- one end after the other is moved: the upper ones down to an integer below all, the lower ones
  -- up
  · intro hends
    induction lows with
    | nil =>
      induction highs with
      | nil => exact ⟨0, by simp, by simp⟩
      | cons high rest ih =>
        obtain ⟨n, -, hrest⟩ := ih (by simp)
        refine ⟨min high n, by simp, ?_⟩
        rw [List.forall_mem_cons]
        exact ⟨Int.min_le_left high n,
          fun other hother => Int.le_trans (Int.min_le_right high n) (hrest other hother)⟩
    | cons low rest ih =>
      rw [List.forall_mem_cons] at hends
      obtain ⟨n, hrest, hhighs⟩ := ih hends.2
      refine ⟨max low n, ?_, ?_⟩
      · rw [List.forall_mem_cons]
        exact ⟨Int.le_max_left low n,
          fun other hother => Int.le_trans (hrest other hother) (Int.le_max_right low n)⟩
      · intro high hhigh
        exact Int.max_le.mpr ⟨hends.1 high hhigh, hhighs high hhigh⟩

/-! ### Differences of whole numbers -/

namespace Binary64

/-- An integer is compared exactly with one that is, and whose predecessor is, up to `2 ^ 53`. -/
theorem units_ofInt_lt_iff {i limit : Int} (hlimit : limit.natAbs ≤ twoPow 53)
    (hbelow : (limit - 1).natAbs ≤ twoPow 53) :
    (ofInt i).units < (ofInt limit).units ↔ i < limit := by
  constructor
  · intro hless
    by_contra hle
    have := units_ofInt_mono (i := limit) (j := i) (by omega)
    omega
  · intro hless
    calc (ofInt i).units
        ≤ (ofInt (limit - 1)).units := units_ofInt_mono (by omega)
      _ = (limit - 1) * one := units_ofInt_of_le hbelow
      _ < limit * one := mul_one_lt_iff.mpr (by omega)
      _ = (ofInt limit).units := (units_ofInt_of_le hlimit).symm

/-- An integer up to `2 ^ 54` is within the finite range. -/
theorem exists_round {i : Int} (h : i.natAbs ≤ twoPow 54) (negative : Bool) :
    ∃ x, round negative (i.natAbs * one) 1 = some x := by
  cases hround : round negative (i.natAbs * one) 1 with
  | some x => exact ⟨x, rfl⟩
  | none =>
    have hlarge := largest_le_of_round hround
    have hsmall : nearest (i.natAbs * one) 1 ≤ nearest (twoPow 53 * twoPow 1075) 1 := by
      refine nearest_mono (Nat.le_trans (Nat.mul_le_mul_right one h) ?_)
      rw [one, ← twoPow_add, ← twoPow_add]
    rw [nearest_eq_self (Nat.le_refl _)] at hsmall
    exact absurd (Nat.le_trans hlarge hsmall) (by cases negative <;> decide +kernel)

end Binary64

/-- The difference of two whole numbers up to `2 ^ 53` is that of the integers, rounded. -/
theorem Extended.sub_of_whole {x y : Binary64} {m n : Int} (hx : x.units = m * Binary64.one)
    (hy : y.units = n * Binary64.one) (hm : m.natAbs ≤ twoPow 53) (hn : n.natAbs ≤ twoPow 53) :
    (Extended.finite y).sub (.finite x) = .finite (Binary64.ofInt (n - m)) := by
  have hdifference : y.units - x.units = (n - m) * Binary64.one := by
    rw [hx, hy, Int.sub_mul]
  have hsign : y.units - x.units < 0 ↔ n - m < 0 := by
    rw [hdifference]
    simpa only [Int.zero_mul] using Binary64.mul_one_lt_iff (m := n - m) (n := 0)
  have hmagnitude : (y.units - x.units).natAbs = (n - m).natAbs * Binary64.one := by
    rw [hdifference, Int.natAbs_mul, Int.natAbs_natCast]
  have hsum : twoPow 54 = twoPow 53 + twoPow 53 := by decide
  obtain ⟨z, hz⟩ := Binary64.exists_round (i := n - m) (by omega) (decide (n - m < 0))
  simp only [Extended.sub, hmagnitude, hsign, hz, Binary64.ofInt, Option.getD_some, ofRounded]

/-! ### Pairs of bounds -/

/-- Two whole bounds leave room if the outermost integers that they allow are in order. -/
theorem rangeConsistent_of_whole {x y : Binary64} {m n : Int} (hx : x.units = m * Binary64.one)
    (hy : y.units = n * Binary64.one) (hm : m.natAbs ≤ twoPow 53) (hn : n.natAbs ≤ twoPow 53)
    (minExclusive maxExclusive : Bool) :
    rangeConsistent (some (.finite x)) minExclusive (some (.finite y)) maxExclusive = true ↔
      m + minExclusive.toNat ≤ n - maxExclusive.toNat := by
  have hone : (1 : Int).natAbs ≤ twoPow 53 := by decide
  have htwo : (2 : Int).natAbs ≤ twoPow 53 := by decide
  have hzero : (1 - 1 : Int).natAbs ≤ twoPow 53 := by decide
  have hlt : (Extended.finite y).lt (.finite x) = decide (n < m) := by
    rw [Bool.eq_iff_iff, Extended.lt_finite, hx, hy, Binary64.mul_one_lt_iff, decide_eq_true_iff]
  -- the difference may be rounded, but not across `1` or `2`
  have hbelow : ∀ limit : Int, limit = 1 ∨ limit = 2 →
      ((Extended.finite y).sub (.finite x)).lt (.finite (Binary64.ofInt limit))
        = decide (n - m < limit) := by
    rintro limit (rfl | rfl)
    · rw [Extended.sub_of_whole hx hy hm hn, Bool.eq_iff_iff, Extended.lt_finite,
        Binary64.units_ofInt_lt_iff hone hzero, decide_eq_true_iff]
    · rw [Extended.sub_of_whole hx hy hm hn, Bool.eq_iff_iff, Extended.lt_finite,
        Binary64.units_ofInt_lt_iff htwo hone, decide_eq_true_iff]
  rw [rangeConsistent]
  dsimp only
  rw [hlt, hbelow 1 (.inl rfl), hbelow 2 (.inr rfl)]
  -- the difference has to be at least as large as there are exclusive bounds
  cases minExclusive <;> cases maxExclusive <;> simp <;> omega

/-! ### The bounds of a schema -/

namespace Facets

/-- The keywords that bound a number. -/
def boundKeywords : List NumberKeyword := [.minimum, .exclusiveMinimum, .maximum, .exclusiveMaximum]

/-- Every bound that is present is a whole number up to `2 ^ 53`, in either spelling. -/
def WholeBounds (facets : Facets) : Prop :=
  ∀ keyword ∈ boundKeywords, ∀ bound, facets.number? keyword = some bound →
    ∃ k : Int, k.natAbs ≤ twoPow 53 ∧ bound.units = k * Binary64.one

/-- An integer lies within all the bounds that are present. -/
@[mk_iff] structure WithinBounds (facets : Facets) (n : Int) : Prop where
  minimum : ∀ bound, facets.number? .minimum = some bound → bound.units ≤ n * Binary64.one
  exclusiveMinimum : ∀ bound, facets.number? .exclusiveMinimum = some bound →
    bound.units < n * Binary64.one
  maximum : ∀ bound, facets.number? .maximum = some bound → n * Binary64.one ≤ bound.units
  exclusiveMaximum : ∀ bound, facets.number? .exclusiveMaximum = some bound →
    n * Binary64.one < bound.units

/-- The keywords of lower bounds, with whether they exclude the bound. -/
def lowerKeywords : List (NumberKeyword × Bool) := [(.minimum, false), (.exclusiveMinimum, true)]

/-- The keywords of upper bounds, with whether they exclude the bound. -/
def upperKeywords : List (NumberKeyword × Bool) := [(.maximum, false), (.exclusiveMaximum, true)]

/-- The integer that a whole bound stands for. -/
def whole? (facets : Facets) (keyword : NumberKeyword) : Option Int :=
  (facets.number? keyword).map fun bound => bound.units / Binary64.one

/-- The least integers that the lower bounds allow. -/
def lowEnds (facets : Facets) : List Int :=
  lowerKeywords.filterMap fun (keyword, exclusive) =>
    (facets.whole? keyword).map fun k => k + exclusive.toNat

/-- The greatest integers that the upper bounds allow. -/
def highEnds (facets : Facets) : List Int :=
  upperKeywords.filterMap fun (keyword, exclusive) =>
    (facets.whole? keyword).map fun k => k - exclusive.toNat

variable {facets : Facets}

theorem whole?_eq_none {keyword : NumberKeyword} (h : facets.number? keyword = none) :
    facets.whole? keyword = none := by
  rw [whole?, h, Option.map_none]

theorem mem_lowEnds {low : Int} : low ∈ facets.lowEnds ↔
    facets.whole? .minimum = some low ∨ facets.whole? .exclusiveMinimum = some (low - 1) := by
  have hshift : ∀ k : Int, k + 1 = low ↔ k = low - 1 := by omega
  simp [lowEnds, lowerKeywords, List.mem_filterMap, hshift]

theorem mem_highEnds {high : Int} : high ∈ facets.highEnds ↔
    facets.whole? .maximum = some high ∨ facets.whole? .exclusiveMaximum = some (high + 1) := by
  have hshift : ∀ k : Int, k - 1 = high ↔ k = high + 1 := by omega
  simp [highEnds, upperKeywords, List.mem_filterMap, hshift]

namespace WholeBounds

/-- A whole bound is exact as binary64. -/
theorem exact (whole : facets.WholeBounds) {keyword : NumberKeyword}
    (hkeyword : keyword ∈ boundKeywords) {bound : Number}
    (hbound : facets.number? keyword = some bound) :
    ∃ k : Int, facets.whole? keyword = some k ∧ k.natAbs ≤ twoPow 53
      ∧ bound.units = k * Binary64.one ∧ bound.toBinary64.units = k * Binary64.one := by
  obtain ⟨k, hk, hunits⟩ := whole keyword hkeyword bound hbound
  have hone : (Binary64.one : Int) ≠ 0 := Int.ne_of_gt Binary64.one_pos
  refine ⟨k, ?_, hk, hunits, ?_⟩
  · rw [whole?, hbound, Option.map_some, hunits, Int.mul_ediv_cancel k hone]
  · cases bound with
    | integer value _ =>
      obtain rfl : value = k := Int.eq_of_mul_eq_mul_right hone hunits
      exact Binary64.units_ofInt_of_le hk
    | real value => exact hunits

/-- A condition on a bound is one on its integer. -/
theorem forall_units_iff (whole : facets.WholeBounds) {keyword : NumberKeyword}
    (hkeyword : keyword ∈ boundKeywords) (condition : Int → Prop) :
    (∀ bound, facets.number? keyword = some bound → condition bound.units) ↔
      ∀ k, facets.whole? keyword = some k → condition (k * Binary64.one) := by
  cases hnumber : facets.number? keyword with
  | none =>
    rw [whole?_eq_none hnumber]
    constructor
    · intro _ k hk
      cases hk
    · intro _ bound hbound
      cases hbound
  | some bound =>
    obtain ⟨k, hwhole, -, hunits, -⟩ := whole.exact hkeyword hnumber
    rw [hwhole]
    constructor
    · rintro h _ ⟨⟩
      rw [← hunits]
      exact h bound rfl
    · rintro h _ ⟨⟩
      rw [hunits]
      exact h k rfl

theorem consistent_iff (whole : facets.WholeBounds) {min max : NumberKeyword}
    (hmin : min ∈ boundKeywords) (hmax : max ∈ boundKeywords) (minExclusive maxExclusive : Bool) :
    facets.consistent min minExclusive max maxExclusive = true ↔
      ∀ m, facets.whole? min = some m → ∀ n, facets.whole? max = some n →
        m + minExclusive.toNat ≤ n - maxExclusive.toNat := by
  unfold consistent bound?
  cases hlow : facets.number? min with
  | none =>
    rw [whole?_eq_none hlow]
    refine iff_of_true rfl ?_
    intro m hm
    cases hm
  | some low =>
    obtain ⟨m, hm, hmle, -, hx⟩ := whole.exact hmin hlow
    rw [hm]
    cases hhigh : facets.number? max with
    | none =>
      rw [whole?_eq_none hhigh]
      refine iff_of_true rfl ?_
      intro _ _ n hn
      cases hn
    | some high =>
      obtain ⟨n, hn, hnle, -, hy⟩ := whole.exact hmax hhigh
      rw [hn]
      refine (rangeConsistent_of_whole hx hy hmle hnle minExclusive maxExclusive).trans ?_
      constructor
      · rintro h _ ⟨⟩ _ ⟨⟩
        exact h
      · intro h
        exact h m rfl n rfl

theorem boundsConsistent_iff (whole : facets.WholeBounds) :
    facets.boundsConsistent = true ↔
      ∀ low ∈ facets.lowEnds, ∀ high ∈ facets.highEnds, low ≤ high := by
  -- the four comparisons are all pairs of a lower and an upper bound
  have hpairs : facets.boundsConsistent = true ↔
      ∀ min ∈ lowerKeywords, ∀ max ∈ upperKeywords,
        facets.consistent min.1 min.2 max.1 max.2 = true := by
    simp [boundsConsistent, lowerKeywords, upperKeywords, and_assoc]
  have hlower : ∀ min ∈ lowerKeywords, min.1 ∈ boundKeywords := by decide
  have hupper : ∀ max ∈ upperKeywords, max.1 ∈ boundKeywords := by decide
  rw [hpairs]
  simp only [lowEnds, highEnds, List.mem_filterMap, Option.map_eq_some_iff]
  constructor
  · rintro hconsistent low ⟨min, hmin, m, hm, rfl⟩ high ⟨max, hmax, n, hn, rfl⟩
    exact (whole.consistent_iff (hlower min hmin) (hupper max hmax) min.2 max.2).mp
      (hconsistent min hmin max hmax) m hm n hn
  · intro hends min hmin max hmax
    rw [whole.consistent_iff (hlower min hmin) (hupper max hmax)]
    intro m hm n hn
    exact hends _ ⟨min, hmin, m, hm, rfl⟩ _ ⟨max, hmax, n, hn, rfl⟩

theorem withinBounds_iff_ends (whole : facets.WholeBounds) {n : Int} :
    facets.WithinBounds n ↔
      (∀ low ∈ facets.lowEnds, low ≤ n) ∧ ∀ high ∈ facets.highEnds, n ≤ high := by
  -- on integers, an exclusive bound is an inclusive one by its neighbour
  have hfields : facets.WithinBounds n ↔
      (∀ k, facets.whole? .minimum = some k → k ≤ n)
        ∧ (∀ k, facets.whole? .exclusiveMinimum = some k → k < n)
        ∧ (∀ k, facets.whole? .maximum = some k → n ≤ k)
        ∧ ∀ k, facets.whole? .exclusiveMaximum = some k → n < k := by
    let units := n * (Binary64.one : Int)
    rw [withinBounds_iff,
      whole.forall_units_iff (by decide : .minimum ∈ boundKeywords) (· ≤ units),
      whole.forall_units_iff (by decide : .exclusiveMinimum ∈ boundKeywords) (· < units),
      whole.forall_units_iff (by decide : .maximum ∈ boundKeywords) (units ≤ ·),
      whole.forall_units_iff (by decide : .exclusiveMaximum ∈ boundKeywords) (units < ·)]
    simp only [units, Binary64.mul_one_le_iff, Binary64.mul_one_lt_iff]
  rw [hfields]
  simp only [mem_lowEnds, mem_highEnds]
  constructor
  · rintro ⟨hminimum, hexclusiveMinimum, hmaximum, hexclusiveMaximum⟩
    constructor
    · rintro low (hlow | hlow)
      · exact hminimum low hlow
      · have := hexclusiveMinimum _ hlow
        omega
    · rintro high (hhigh | hhigh)
      · exact hmaximum high hhigh
      · have := hexclusiveMaximum _ hhigh
        omega
  · rintro ⟨hlows, hhighs⟩
    refine ⟨fun k hk => hlows k (.inl hk), fun k hk => ?_, fun k hk => hhighs k (.inl hk),
      fun k hk => ?_⟩
    · have := hlows (k + 1) (.inr (by rw [hk, Int.add_sub_cancel]))
      omega
    · have := hhighs (k - 1) (.inr (by rw [hk, Int.sub_add_cancel]))
      omega

end WholeBounds

/-- The rule for the range is the only one with its tag. -/
theorem tagged_numberRange :
    Violation.Tagged "minMax" (facets.violations (some .number)) ↔
      facets.boundsConsistent = false := by
  have hmisfits : ∀ keywords, ¬ Violation.Tagged "minMax" (facets.misfits keywords) :=
    not_tagged_misfits (by decide)
  simp only [violations, numberViolations, Violation.tagged_append, Violation.tagged_if,
    Violation.tagged_unless, hmisfits, false_or]
  simp [Violation.tag?]

end Facets

namespace Schema

/-- With whole bounds up to `2 ^ 53`, the range of a number is reported exactly if no integer lies
within all of them. -/
theorem reports_minMax_iff (messages : Messages) {facets : Facets} (parts : Parts Schema)
    (htype : facets.primaryType? = some .number) (whole : facets.WholeBounds) :
    ((object facets parts).issueTree messages).Reports "minMax" ↔
      ¬ ∃ n, facets.WithinBounds n := by
  rw [reports_iff, htype, Facets.tagged_numberRange, ← Bool.not_eq_true, whole.boundsConsistent_iff,
    ← exists_between_iff]
  simp only [whole.withinBounds_iff_ends]

/-- A number strictly between `3` and `4.0`. -/
def openUnit : Facets :=
  { type := some (.single .number), exclusiveMinimum := some 3,
    exclusiveMaximum := some (.real (.ofInt 4)) }

theorem openUnit_whole : Facets.WholeBounds openUnit := by
  intro keyword hkeyword bound hbound
  simp only [Facets.boundKeywords, List.mem_cons, List.not_mem_nil, or_false] at hkeyword
  obtain rfl | rfl | rfl | rfl := hkeyword
  · cases hbound
  · cases hbound
    exact ⟨3, by decide, rfl⟩
  · cases hbound
  · cases hbound
    exact ⟨4, by decide, Binary64.units_ofInt_of_le (by decide)⟩

theorem reports_minMax_openUnit :
    Facets.primaryType? openUnit = some .number ∧ Facets.WholeBounds openUnit
      ∧ ((object openUnit {}).issueTree {}).Reports "minMax" := by
  refine ⟨rfl, openUnit_whole, (reports_minMax_iff {} {} rfl openUnit_whole).mpr ?_⟩
  rintro ⟨n, within⟩
  have hthree : Number.units 3 = 3 * Binary64.one := rfl
  have hlow := within.exclusiveMinimum 3 rfl
  rw [hthree, Binary64.mul_one_lt_iff] at hlow
  have hfour : Number.units (.real (.ofInt 4)) = 4 * Binary64.one :=
    Binary64.units_ofInt_of_le (by decide)
  have hhigh := within.exclusiveMaximum (.real (.ofInt 4)) rfl
  rw [hfour, Binary64.mul_one_lt_iff] at hhigh
  omega

end Schema

end JsonShape
