import JsonShape.Proofs.Equivalence
import JsonShape.Proofs.Rounding
import Mathlib.Data.List.Sort
import Mathlib.Data.String.Basic
import Mathlib.Data.Sum.Order

/-!
# What refinements see of the observed values

A refinement looks at the observed values only as a collection: neither the order in which they come
nor the spelling of a zero makes a difference to it. Where values are listed, they are sorted by a
key that equal values share. Of numbers that have one key and are different values, as an integer
and the same number with a point, only the first is listed.

* **Keys** (`Refinement.sameValue_iff_key`) — values count as one exactly if they have one key.
* **Listed values** (`Refinement.listed_firstsBy`, `Refinement.Listed.map_key_mergeSort`) — the
  values that are listed have different keys, and values with the same keys are listed in the same
  order.
* **Rearranged observations** (`Refinement.Rearranged.perm_keys`) — in whatever order the values
  come, what is listed of them has the same keys.
-/

namespace JsonShape

open Members Schema

/-! ### What equal values share -/

theorem Number.isWhole_eq_of_same {a b : Number} (h : a.same b = true) :
    a.isWhole = b.isWhole := by
  cases a with
  | integer i _ =>
    cases b with
    | integer j _ => rfl
    | real y => cases h
  | real x =>
    cases b with
    | integer j _ => cases h
    | real y =>
      show (x.magnitude % Binary64.one == 0) = (y.magnitude % Binary64.one == 0)
      rw [← x.natAbs_units, ← y.natAbs_units, Binary64.same_iff.mp h]

theorem Json.isNumber_eq_of_same {a b : Json} (h : a.same b = true) :
    a.isNumber = b.isNumber := by
  cases a <;> cases b <;> first | rfl | cases h

namespace Refinement

variable {a b : Json} {values others : List Json}

/-! ### Keys of listed values -/

/-- What a listed value is sorted by and told apart by. -/
def key : Json → Int ⊕ₗ String
  | .number number => toLex (.inl number.toBinary64.units)
  | .string text => toLex (.inr text)
  | _ => toLex (.inr "")

theorem sameValue_iff_key (ha : (a.isString || a.isNumber) = true)
    (hb : (b.isString || b.isNumber) = true) : sameValue a b = true ↔ key a = key b := by
  cases a with
  | number x =>
    cases b with
    | number y =>
      show x.toBinary64.same y.toBinary64 = true ↔ toLex (Sum.inl _) = toLex (Sum.inl _)
      rw [Binary64.same_iff, toLex_inj, Sum.inl.injEq]
    | string text => exact ⟨fun h => (by cases h), fun h => (by cases h)⟩
    | _ => cases hb
  | string text =>
    cases b with
    | number y => exact ⟨fun h => (by cases h), fun h => (by cases h)⟩
    | string other =>
      show (text == other) = true ↔ toLex (Sum.inr _) = toLex (Sum.inr _)
      rw [beq_iff_eq, toLex_inj, Sum.inr.injEq]
    | _ => cases hb
  | _ => cases ha

theorem isListable_eq_of_same (h : a.same b = true) :
    (a.isString || a.isNumber) = (b.isString || b.isNumber) := by
  cases a <;> cases b <;> first | rfl | cases h

theorem key_eq_of_same (h : a.same b = true) : key a = key b := by
  cases a with
  | number x =>
    cases b with
    | number y =>
      have hunits := Binary64.same_iff.mp (Number.same_toBinary64 h)
      exact congrArg (fun units => toLex (Sum.inl units)) hunits
    | _ => cases h
  | string text =>
    cases b with
    | string other =>
      have htext : text = other := beq_iff_eq.mp h
      rw [htext]
    | _ => cases h
  | _ => cases b <;> first | rfl | cases h

/-- Listed values are in the order of their keys, if a key stands for one value. -/
theorem valueLe_eq (ha : (a.isString || a.isNumber) = true) (hb : (b.isString || b.isNumber) = true)
    (h : key a = key b → a = b) : valueLe a b = decide (key a ≤ key b) := by
  cases a with
  | number x =>
    cases b with
    | number y =>
      -- the signs of zeros are compared last, and of these only one is there
      have hsign : x.toBinary64.units = y.toBinary64.units →
          x.toBinary64.negative = y.toBinary64.negative := by
        intro hunits
        have hxy := Json.number.inj (h (congrArg (fun units => toLex (Sum.inl units)) hunits))
        rw [hxy]
      have hle : (x.toBinary64.compareTotal y.toBinary64 != .gt) = true ↔
          x.toBinary64.units ≤ y.toBinary64.units := by
        unfold Binary64.compareTotal
        rcases lt_trichotomy x.toBinary64.units y.toBinary64.units with hlt | heq | hgt
        · simp [compare_lt_iff_lt.mpr hlt, hlt.le]
        · simp [heq, hsign heq]
        · simp [compare_gt_iff_gt.mpr hgt, hgt]
      refine Bool.eq_iff_iff.mpr (hle.trans ?_)
      rw [decide_eq_true_eq]
      exact Sum.Lex.inl_le_inl_iff.symm
    | string text => exact (decide_eq_true (p := key (.number x) ≤ key (.string text))
        (Sum.Lex.inl_le_inr _ _)).symm
    | _ => cases hb
  | string text =>
    cases b with
    | number y => exact (decide_eq_false (p := key (.string text) ≤ key (.number y))
        Sum.Lex.not_inr_le_inl).symm
    | string other => exact decide_eq_decide.mpr Sum.Lex.inr_le_inr_iff.symm
    | _ => cases hb
  | _ => cases ha

/-! ### Distinct values -/

/-- Values that can be listed, no two of which have the same key. -/
structure Listed (values : List Json) : Prop where
  listable : ∀ value ∈ values, (value.isString || value.isNumber) = true
  nodup : (values.map key).Nodup

theorem listed_firstsBy (h : ∀ value ∈ values, (value.isString || value.isNumber) = true) :
    Listed (firstsBy sameValue values) where
  listable value hvalue := h value (mem_of_mem_firstsBy hvalue)
  nodup := by
    refine List.pairwise_map.mpr ((pairwise_firstsBy values).imp_of_mem ?_)
    intro earlier later hearlier hlater hdiffer heq
    have hsame := (sameValue_iff_key (h earlier (mem_of_mem_firstsBy hearlier))
      (h later (mem_of_mem_firstsBy hlater))).mpr heq
    rw [hsame] at hdiffer
    cases hdiffer

theorem Listed.eq_of_key (listed : Listed values) (ha : a ∈ values) (hb : b ∈ values)
    (h : key a = key b) : a = b :=
  List.inj_on_of_nodup_map listed.nodup ha hb h

/-- Sorted values have sorted keys. -/
theorem Listed.map_key_mergeSort (listed : Listed values) :
    (values.mergeSort valueLe).map key
      = (values.map key).mergeSort fun first second => decide (first ≤ second) :=
  List.map_mergeSort fun a ha b hb =>
    valueLe_eq (listed.listable a ha) (listed.listable b hb) (listed.eq_of_key ha hb)

theorem mem_map_key_firstsBy (h : ∀ value ∈ values, (value.isString || value.isNumber) = true)
    {found : Int ⊕ₗ String} :
    found ∈ (firstsBy sameValue values).map key ↔ found ∈ values.map key := by
  simp only [List.mem_map]
  constructor
  · rintro ⟨value, hvalue, rfl⟩
    exact ⟨value, mem_of_mem_firstsBy hvalue, rfl⟩
  · rintro ⟨value, hvalue, rfl⟩
    -- a value that is left out has the key of one that stays
    have hkept : ∃ first ∈ firstsBy sameValue values,
        first = value ∨ sameValue first value = true := exists_mem_firstsBy hvalue
    obtain ⟨first, hfirst, rfl | hsame⟩ := hkept
    · exact ⟨first, hfirst, rfl⟩
    · have hlistable := h first (mem_of_mem_firstsBy hfirst)
      exact ⟨first, hfirst, (sameValue_iff_key hlistable (h value hvalue)).mp hsame⟩

/-- Sorting forgets the order. -/
theorem mergeSort_eq_of_perm {α : Type} [LinearOrder α] {as bs : List α} (perm : as.Perm bs) :
    (as.mergeSort fun a b => decide (a ≤ b)) = bs.mergeSort fun a b => decide (a ≤ b) := by
  refine List.Perm.eq_of_sortedLE List.sortedLE_mergeSort List.sortedLE_mergeSort ?_
  exact ((List.mergeSort_perm _ _).trans perm).trans (List.mergeSort_perm _ _).symm

/-- What is different is strictly ascending when it is sorted. -/
theorem pairwise_lt_mergeSort {α : Type} [LinearOrder α] {as : List α} (nodup : as.Nodup) :
    (as.mergeSort fun a b => decide (a ≤ b)).Pairwise (· < ·) := by
  have hsorted : (as.mergeSort fun a b => decide (a ≤ b)).Pairwise (· ≤ ·) :=
    List.sortedLE_mergeSort.pairwise
  have hnodup := (List.mergeSort_perm as fun a b => decide (a ≤ b)).nodup_iff.mpr nodup
  exact (hsorted.and hnodup).imp fun h => lt_of_le_of_ne h.1 h.2

/-- Values with the same keys are sorted into the same order. -/
theorem forall₂_mergeSort {R : Json → Json → Prop} (listed : Listed values)
    (listed' : Listed others) (perm : (values.map key).Perm (others.map key))
    (h : ∀ a ∈ values, ∀ b ∈ others, key a = key b → R a b) :
    List.Forall₂ R (values.mergeSort valueLe) (others.mergeSort valueLe) := by
  -- sorted by their keys, both lists have the same keys in the same order
  have hkeys : (values.mergeSort valueLe).map key = (others.mergeSort valueLe).map key := by
    rw [listed.map_key_mergeSort, listed'.map_key_mergeSort]
    exact mergeSort_eq_of_perm perm
  have hpairs : List.Forall₂ (fun a b => key a = key b) (values.mergeSort valueLe)
      (others.mergeSort valueLe) :=
    List.forall₂_map_left_iff.mp (List.forall₂_map_right_iff.mp
      (hkeys ▸ List.forall₂_same.mpr fun _ _ => rfl))
  exact forall₂_imp_of_mem hpairs fun a ha b hb =>
    h a (List.mem_mergeSort.mp ha) b (List.mem_mergeSort.mp hb)

/-- Values with the same keys are listed in the same order. -/
theorem same_listedSchema {type : TypeName} (listed : Listed values) (listed' : Listed others)
    (perm : (values.map key).Perm (others.map key))
    (h : ∀ a ∈ values, ∀ b ∈ others, key a = key b → a.same b = true) :
    (listedSchema type values).same (listedSchema type others) = true := by
  have hchoices : Json.sameElements (values.mergeSort valueLe) (others.mergeSort valueLe) = true :=
    Json.sameElementsUpTo_iff.mpr (forall₂_mergeSort listed listed' perm h)
  rw [listedSchema, listedSchema, same_object_eq]
  simp [Facets.same, TextKeyword.all, NumberKeyword.all, Facets.text?, Facets.number?,
    relateOption, TypeSpec.same, Members.relate, Parts.relate, MapKeyword.all, ListKeyword.all,
    SingleKeyword.all, Parts.map?, Parts.list?, Parts.single?, hchoices]

/-! ### Observations in another order -/

/-- The second values are the first ones, up to order and equality. -/
def Rearranged (values others : List Json) : Prop :=
  ∃ between, values.Perm between ∧ List.Forall₂ (fun a b => a.same b = true) between others

namespace Rearranged

theorem of_forall₂ (pairs : List.Forall₂ (fun a b => a.same b = true) values others) :
    Rearranged values others :=
  ⟨values, .refl values, pairs⟩

theorem of_perm (perm : values.Perm others) (unique : ∀ value ∈ others, value.UniqueNames) :
    Rearranged values others :=
  ⟨others, perm, List.forall₂_same.mpr fun value hvalue => Json.same_refl (unique value hvalue)⟩

theorem length_eq (h : Rearranged values others) : values.length = others.length := by
  obtain ⟨between, perm, pairs⟩ := h
  exact perm.length_eq.trans pairs.length_eq

theorem map_perm (h : Rearranged values others) {α : Type} {f : Json → α}
    (hf : ∀ a b : Json, a.same b = true → f a = f b) : (values.map f).Perm (others.map f) := by
  obtain ⟨between, perm, pairs⟩ := h
  -- along the pairs the function has the same values
  have hmap : between.map f = others.map f := by
    induction pairs generalizing values with
    | nil => rfl
    | cons hhead _ ih => rw [List.map_cons, List.map_cons, hf _ _ hhead, ih (.refl _)]
  exact hmap ▸ perm.map f

theorem all_eq (h : Rearranged values others) {p : Json → Bool}
    (hp : ∀ a b : Json, a.same b = true → p a = p b) : values.all p = others.all p := by
  have hall := (h.map_perm hp).all_eq (f := id)
  rwa [List.all_map, List.all_map] at hall

theorem filter (h : Rearranged values others) {p : Json → Bool}
    (hp : ∀ a b : Json, a.same b = true → p a = p b) :
    Rearranged (values.filter p) (others.filter p) := by
  obtain ⟨between, perm, pairs⟩ := h
  exact ⟨between.filter p, perm.filter p,
    List.rel_filter (fun a b hab => Bool.eq_iff_iff.mp (hp a b hab)) pairs⟩

/-- What is listed of them has the same keys. -/
theorem perm_keys (h : Rearranged values others)
    (hvalues : ∀ value ∈ values, (value.isString || value.isNumber) = true)
    (hothers : ∀ value ∈ others, (value.isString || value.isNumber) = true) :
    ((firstsBy sameValue values).map key).Perm ((firstsBy sameValue others).map key) := by
  refine (List.perm_ext_iff_of_nodup (listed_firstsBy hvalues).nodup
    (listed_firstsBy hothers).nodup).mpr fun found => ?_
  rw [mem_map_key_firstsBy hvalues, mem_map_key_firstsBy hothers]
  exact (h.map_perm fun a b => key_eq_of_same).mem_iff

end Rearranged

theorem tupleLength?_eq_of_same (h : a.same b = true) : tupleLength? a = tupleLength? b := by
  cases a with
  | array as =>
    obtain ⟨bs, rfl, hpairs⟩ := Json.sameUpTo_array h
    have hnumbers := (Rearranged.of_forall₂ hpairs).all_eq fun c d => Json.isNumber_eq_of_same
    simp only [tupleLength?, hpairs.length_eq, hnumbers]
  | _ => cases b <;> first | rfl | cases h

theorem commonLength?_eq_some_iff {length : Nat} : commonLength? values = some length ↔
    values ≠ [] ∧ ∀ value ∈ values, tupleLength? value = some length := by
  constructor
  · intro h
    refine ⟨?_, commonLength_some h⟩
    rintro rfl
    cases h
  · rintro ⟨nonempty, hall⟩
    cases values with
    | nil => exact absurd rfl nonempty
    | cons first rest =>
      rw [List.forall_mem_cons] at hall
      show (tupleLength? first).bind _ = _
      rw [hall.1]
      exact if_pos (List.all_eq_true.mpr fun value hvalue => beq_iff_eq.mpr (hall.2 value hvalue))

theorem Rearranged.commonLength?_eq (h : Rearranged values others) :
    commonLength? values = commonLength? others := by
  refine Option.ext fun length => ?_
  have hempty : values ≠ [] ↔ others ≠ [] := by
    rw [← List.length_pos_iff, ← List.length_pos_iff, h.length_eq]
  have hall := h.all_eq (p := fun value => tupleLength? value == some length) fun a b hab => by
    rw [tupleLength?_eq_of_same hab]
  rw [Bool.eq_iff_iff, List.all_eq_true, List.all_eq_true] at hall
  simp only [beq_iff_eq] at hall
  exact commonLength?_eq_some_iff.trans ((and_congr hempty hall).trans
    commonLength?_eq_some_iff.symm)

theorem isRecent_eq_of_same {floor : Int} (h : a.same b = true) :
    isRecent floor a = isRecent floor b := by
  cases a with
  | number x =>
    cases b with
    | number y =>
      show (x.isWhole && !x.toBinary64.lt _) = (y.isWhole && !y.toBinary64.lt _)
      have hunits := Binary64.same_iff.mp (Number.same_toBinary64 h)
      rw [Number.isWhole_eq_of_same h, Binary64.lt, Binary64.lt, hunits]
    | _ => cases h
  | _ => cases b <;> first | rfl | cases h

end Refinement

end JsonShape
