import JsonShape.Proofs.Observations
import Mathlib.Data.Set.Card

/-!
# Values that count as one

Where values are listed, numbers that are one as binary64 count as one value: an integer and the
same number with a point, but also two integers that are too large to be told apart. The values of a
list fall into classes of such values.

* **Representatives** (`Refinement.represents_firstsBy`) — the values that equal no earlier one
  represent each class once, and in their order each is strictly less than the next.
* **Exactness** (`Refinement.Represents.exact_iff`) — they represent every number exactly, if and
  only if no two different numbers of the list are one as binary64.
-/

namespace JsonShape

namespace Number

/-- Numbers of one value are one as binary64. -/
theorem toBinary64_eq_of_equals {a b : Number} (h : a.units = b.units) :
    a.toBinary64.units = b.toBinary64.units := by
  cases a with
  | integer i _ =>
    cases b with
    | integer j _ =>
      -- integers of one value are the same, and a number with a point is its own rounding
      have hij : i = j := Int.eq_of_mul_eq_mul_right (ne_of_gt Binary64.one_pos) h
      exact congrArg (fun k => (Binary64.ofInt k).units) hij
    | real y => exact (Binary64.units_ofInt_of_units_eq h.symm).trans h
  | real x =>
    cases b with
    | integer j _ => exact h.trans (Binary64.units_ofInt_of_units_eq h).symm
    | real y => exact h

end Number

namespace Refinement

variable {values others : List Json} {a b value : Json}

/-! ### The exact value -/

/-- What tells listed values apart if the spelling of a number does not count. -/
def exactKey : Json → Int ⊕ String
  | .number number => .inl number.units
  | .string text => .inr text
  | _ => .inr ""

theorem equals_iff_exactKey (ha : (a.isString || a.isNumber) = true)
    (hb : (b.isString || b.isNumber) = true) : a.equals b = true ↔ exactKey a = exactKey b := by
  cases a with
  | number x =>
    cases b with
    | number y =>
      show (x.units == y.units) = true ↔ Sum.inl x.units = Sum.inl y.units
      rw [beq_iff_eq, Sum.inl.injEq]
    | string text => exact ⟨fun h => (by cases h), fun h => (by cases h)⟩
    | _ => cases hb
  | string text =>
    cases b with
    | number y => exact ⟨fun h => (by cases h), fun h => (by cases h)⟩
    | string other =>
      show (text == other) = true ↔ Sum.inr text = Sum.inr other
      rw [beq_iff_eq, Sum.inr.injEq]
    | _ => cases hb
  | _ => cases ha

/-- Values that are equal exactly count as one. -/
theorem sameValue_of_equals (ha : (a.isString || a.isNumber) = true)
    (hb : (b.isString || b.isNumber) = true) (h : a.equals b = true) : sameValue a b = true := by
  rw [sameValue_iff_key ha hb]
  rw [equals_iff_exactKey ha hb] at h
  cases a with
  | number x =>
    cases b with
    | number y =>
      have hunits := Number.toBinary64_eq_of_equals (Sum.inl.inj h)
      exact congrArg (fun units => toLex (Sum.inl units)) hunits
    | string text => cases h
    | _ => cases hb
  | string text =>
    cases b with
    | number y => cases h
    | string other => exact congrArg (fun text => toLex (Sum.inr text)) (Sum.inr.inj h)
    | _ => cases hb
  | _ => cases ha

/-- Different numbers among the values are one as binary64. -/
def Conflated (values : List Json) : Prop :=
  ∃ x y : Number, .number x ∈ values ∧ .number y ∈ values
    ∧ x.toBinary64.same y.toBinary64 = true ∧ x.equals y = false

/-- Nothing is conflated if values that count as one are equal. -/
theorem not_conflated_iff (h : ∀ value ∈ values, (value.isString || value.isNumber) = true) :
    ¬ Conflated values ↔
      ∀ a ∈ values, ∀ b ∈ values, sameValue a b = true → a.equals b = true := by
  constructor
  · intro hnot a ha b hb hsame
    cases a with
    | number x =>
      cases b with
      | number y =>
        by_contra hdiffer
        exact hnot ⟨x, y, ha, hb, hsame, Bool.eq_false_iff.mpr hdiffer⟩
      | _ => cases hsame
    | string text =>
      cases b with
      | string other => exact hsame
      | _ => cases hsame
    | _ => cases h _ ha
  · rintro hequal ⟨x, y, hx, hy, hsame, hdiffer⟩
    have hxy : x.equals y = true := hequal _ hx _ hy hsame
    rw [hxy] at hdiffer
    cases hdiffer

/-! ### Classes -/

/-- The values of a list that count as one with a value. -/
def classOf (values : List Json) (value : Json) : Set Json :=
  {other | other ∈ values ∧ sameValue value other = true}

/-- How many classes of values that count as one a list has. -/
noncomputable def classCount (values : List Json) : Nat :=
  (classOf values '' {value | value ∈ values}).ncard

theorem classOf_eq_iff (h : ∀ value ∈ values, (value.isString || value.isNumber) = true)
    (ha : a ∈ values) (hb : b ∈ values) : classOf values a = classOf values b ↔ key a = key b := by
  constructor
  · intro heq
    have hmem : b ∈ classOf values a := by
      rw [heq]
      exact ⟨hb, (sameValue_iff_key (h b hb) (h b hb)).mpr rfl⟩
    exact (sameValue_iff_key (h a ha) (h b hb)).mp hmem.2
  · intro hkey
    ext other
    refine and_congr_right fun hother => ?_
    rw [sameValue_iff_key (h a ha) (h other hother), sameValue_iff_key (h b hb) (h other hother),
      hkey]

/-- There are as many classes as values that equal no earlier one. -/
theorem classCount_eq (h : ∀ value ∈ values, (value.isString || value.isNumber) = true) :
    classCount values = (firstsBy sameValue values).length := by
  have hlisted := listed_firstsBy h
  -- every class is that of a value which equals no earlier one, and different such values have
  -- different classes
  have himage : classOf values '' {value | value ∈ values}
      = classOf values '' {value | value ∈ firstsBy sameValue values} := by
    refine Set.Subset.antisymm ?_ (Set.image_mono fun value => mem_of_mem_firstsBy)
    rintro _ ⟨value, hvalue, rfl⟩
    have hkey := (mem_map_key_firstsBy h).mpr (List.mem_map_of_mem hvalue)
    obtain ⟨first, hfirst, heq⟩ := List.mem_map.mp hkey
    exact ⟨first, hfirst, (classOf_eq_iff h (mem_of_mem_firstsBy hfirst) hvalue).mpr heq⟩
  have hinjective : Set.InjOn (classOf values) {value | value ∈ firstsBy sameValue values} := by
    intro a ha b hb heq
    exact hlisted.eq_of_key ha hb ((classOf_eq_iff h (mem_of_mem_firstsBy ha)
      (mem_of_mem_firstsBy hb)).mp heq)
  classical
  have hfirsts : {value | value ∈ firstsBy sameValue values}
      = ((firstsBy sameValue values).toFinset : Set Json) := by
    ext value
    simp
  rw [classCount, himage, hinjective.ncard_image, hfirsts, Set.ncard_coe_finset,
    List.toFinset_card_of_nodup hlisted.nodup.of_map]

/-! ### The order of listed values -/

/-- How two listed values compare: numbers by size, and before the strings in their order. -/
def valueOrder : Json → Json → Ordering
  | .number a, .number b => a.toBinary64.compareTotal b.toBinary64
  | .number _, _ => .lt
  | _, .number _ => .gt
  | .string a, .string b => compare a b
  | _, _ => .eq

theorem valueOrder_of_key_lt (ha : (a.isString || a.isNumber) = true)
    (hb : (b.isString || b.isNumber) = true) (h : key a < key b) : valueOrder a b = .lt := by
  cases a with
  | number x =>
    cases b with
    | number y =>
      have hunits : x.toBinary64.units < y.toBinary64.units := Sum.Lex.inl_lt_inl_iff.mp h
      show x.toBinary64.compareTotal y.toBinary64 = .lt
      rw [Binary64.compareTotal, compare_lt_iff_lt.mpr hunits]
    | string text => rfl
    | _ => cases hb
  | string text =>
    cases b with
    | number y => exact absurd h Sum.Lex.not_inr_lt_inl
    | string other => exact compare_lt_iff_lt.mpr (Sum.Lex.inr_lt_inr_iff.mp h)
    | _ => cases hb
  | _ => cases ha

/-! ### Representatives -/

/-- One value of each class, in strictly ascending order. -/
structure Represents (listed values : List Json) : Prop where
  subset : listed ⊆ values
  unique : ∀ value ∈ values, ∃! found, found ∈ listed ∧ sameValue found value = true
  ascending : listed.Pairwise fun a b => valueOrder a b = .lt
  length : listed.length = classCount values

/-- The values that equal no earlier one represent all, when they are sorted. -/
theorem represents_firstsBy (h : ∀ value ∈ values, (value.isString || value.isNumber) = true) :
    Represents ((firstsBy sameValue values).mergeSort valueLe) values where
  subset value hvalue := mem_of_mem_firstsBy (List.mem_mergeSort.mp hvalue)
  unique value hvalue := by
    have hlisted := listed_firstsBy h
    have hkey := (mem_map_key_firstsBy h).mpr (List.mem_map_of_mem hvalue)
    obtain ⟨first, hfirst, heq⟩ := List.mem_map.mp hkey
    have hsame {found : Json} (hfound : found ∈ firstsBy sameValue values) :
        sameValue found value = true ↔ key found = key value :=
      sameValue_iff_key (hlisted.listable found hfound) (h value hvalue)
    refine ⟨first, ⟨List.mem_mergeSort.mpr hfirst, (hsame hfirst).mpr heq⟩, ?_⟩
    rintro found ⟨hfound, hother⟩
    rw [List.mem_mergeSort] at hfound
    exact hlisted.eq_of_key hfound hfirst (((hsame hfound).mp hother).trans heq.symm)
  ascending := by
    have hlisted := listed_firstsBy h
    have hkeys : (((firstsBy sameValue values).mergeSort valueLe).map key).Pairwise (· < ·) := by
      rw [hlisted.map_key_mergeSort]
      exact pairwise_lt_mergeSort hlisted.nodup
    refine (List.pairwise_map.mp hkeys).imp_of_mem fun ha hb hlt => ?_
    exact valueOrder_of_key_lt (hlisted.listable _ (List.mem_mergeSort.mp ha))
      (hlisted.listable _ (List.mem_mergeSort.mp hb)) hlt
  length := by rw [List.length_mergeSort, classCount_eq h]

/-- Every value is among its representatives, whatever its spelling, if nothing is conflated. -/
theorem Represents.exact_iff {listed : List Json} (represents : Represents listed values)
    (h : ∀ value ∈ values, (value.isString || value.isNumber) = true) :
    (∀ value ∈ values, ∃ found ∈ listed, found.equals value = true) ↔ ¬ Conflated values := by
  have hlistable {found : Json} (hfound : found ∈ listed) := h found (represents.subset hfound)
  rw [not_conflated_iff h]
  constructor
  · intro hexact a ha b hb hsame
    obtain ⟨found, hfound, hequal⟩ := hexact a ha
    obtain ⟨found', hfound', hequal'⟩ := hexact b hb
    -- both represent the class of `b`, so they are one
    have hfoundB : sameValue found b = true := by
      have hfoundA := sameValue_of_equals (hlistable hfound) (h a ha) hequal
      rw [sameValue_iff_key (hlistable hfound) (h b hb)]
      rw [sameValue_iff_key (hlistable hfound) (h a ha)] at hfoundA
      rw [sameValue_iff_key (h a ha) (h b hb)] at hsame
      exact hfoundA.trans hsame
    have hfoundB' := sameValue_of_equals (hlistable hfound') (h b hb) hequal'
    have hone := (represents.unique b hb).unique ⟨hfound, hfoundB⟩ ⟨hfound', hfoundB'⟩
    rw [equals_iff_exactKey (hlistable hfound) (h a ha), hone] at hequal
    rw [equals_iff_exactKey (hlistable hfound') (h b hb)] at hequal'
    exact (equals_iff_exactKey (h a ha) (h b hb)).mpr (hequal.symm.trans hequal')
  · intro hequal value hvalue
    obtain ⟨found, ⟨hfound, hsame⟩, -⟩ := represents.unique value hvalue
    exact ⟨found, hfound, hequal found (represents.subset hfound) value hvalue hsame⟩

end Refinement

end JsonShape
