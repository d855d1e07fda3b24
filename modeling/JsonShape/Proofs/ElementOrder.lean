import JsonShape.Proofs.KeyOrder
import JsonShape.Proofs.Permutations

/-!
# Inference and the order of elements

The schema of an array is made from its elements in three ways, and each looks at their order in its
own way. A choice between elements of different types does not. Of elements of one type the first
speaks for all, unless they are objects. Of objects it is the properties whose values are looked at
in their order: numbers are widened until something else is seen, and of different values that count
as one listed number the first is kept.

Main statement: by `Inferrer.alike_permuted_iff` the schemas of all permutations of an array are
equal up to the order of alternatives if and only if the order matters in none of these ways.
-/

namespace JsonShape

namespace Inferrer

open Members Schema Refinement

variable {config : InferenceConfig} {clockMs clockMs' : Int} {inferrer inferrer' : Inferrer}

/-- The schema of an array of these elements depends on their order. -/
inductive OrderMatters (inferrer : Inferrer) : List Json → Prop
  /-- Of elements of one type that are no objects, the first speaks for all. -/
  | leading {first element : Json} {rest : List Json} :
      (∀ other ∈ first :: rest, other.kind = first.kind) → first.kind ≠ .object →
      element ∈ first :: rest →
      (inferrer.infer first).alike (inferrer.infer element) = false →
      OrderMatters inferrer (first :: rest)
  /-- Numbers of a property are widened only until something else is seen. -/
  | widening {objects : List (Members Json)} {name : String} {integer number other : Json} :
      Noted objects name integer → integer.kind = .integer →
      Noted objects name number → number.kind = .number →
      Noted objects name other → other.kind ≠ .integer → other.kind ≠ .number →
      OrderMatters inferrer (objects.map .object)
  /-- Of different values that count as one number, the first is listed. -/
  | spelling {objects : List (Members Json)} {name : String} {a b : Json} {type : TypeName}
      {values : List Json} :
      inferrer.refinedSchema objects name = listedSchema type values →
      Noted objects name a → Noted objects name b → sameValue a b = true → a.same b = false →
      OrderMatters inferrer (objects.map .object)

/-! ### Schemas of arrays -/

theorem alike_infer_cons (first first' : Json) (rest rest' : List Json) :
    (inferrer.infer (.array (first :: rest))).alike (inferrer.infer (.array (first' :: rest')))
      = (inferrer.sharedSchema first rest).alike (inferrer.sharedSchema first' rest') := by
  rw [infer_cons, infer_cons, alike, equal_array]
  rfl

section Objects

variable {objects objects' : List (Members Json)} {name : String}

theorem exists_objects_of_perm {values : List Json} (perm : values.Perm (objects.map .object)) :
    ∃ objects' : List (Members Json), values = objects'.map .object ∧ objects'.Perm objects := by
  have hkind : ∀ value ∈ values, value.kind = .object := by
    intro value hvalue
    obtain ⟨members, -, rfl⟩ := List.mem_map.mp (perm.mem_iff.mp hvalue)
    rfl
  obtain ⟨objects', rfl⟩ := Json.exists_objects hkind
  exact ⟨objects', rfl, (List.map_perm_map_iff fun _ _ => Json.object.inj).mp perm⟩

theorem alike_infer_objects_iff (nonempty : objects ≠ [])
    (unique : ∀ members ∈ objects, (Json.object members).UniqueNames)
    (perm : objects'.Perm objects) :
    (inferrer.infer (.array (objects.map .object))).alike
        (inferrer.infer (.array (objects'.map .object))) = true ↔
      ∀ name, observed name (objects.map .object) ≠ [] →
        (inferrer.refinedSchema objects name).alike (inferrer.refinedSchema objects' name)
          = true := by
  have nodup : ∀ members ∈ objects, (names members).Nodup := fun members hmembers =>
    (unique members hmembers).nodup
  rw [infer_objects nonempty, infer_objects fun h => nonempty (h ▸ perm).nil_eq.symm, alike,
    equal_array]
  exact equal_unify_iff (sameCounts_of_perm perm) nodup fun members hmembers =>
    nodup members (perm.mem_iff.mp hmembers)

theorem isNumeric_infer (value : Json) : (inferrer.infer value).isNumeric = true ↔
    value.kind = .integer ∨ value.kind = .number := by
  rw [isNumeric, isType_infer, isType_infer, Bool.or_eq_true, beq_iff_eq, beq_iff_eq]

/-- A property is mixed if values of the three kinds are noted. -/
theorem mixedProperty_iff (nodup : ∀ members ∈ objects, (names members).Nodup) :
    inferrer.MixedProperty objects name ↔
      (∃ value, Noted objects name value ∧ value.kind = .integer)
        ∧ (∃ value, Noted objects name value ∧ value.kind = .number)
        ∧ ∃ value, Noted objects name value ∧ value.kind ≠ .integer ∧ value.kind ≠ .number := by
  -- the observed schemas are those of the noted values
  have hexists : ∀ p : Schema → Prop,
      (∃ schema ∈ (observed name (objects.map .object)).map inferrer.infer, p schema) ↔
        ∃ value, Noted objects name value ∧ p (inferrer.infer value) := by
    intro p
    constructor
    · rintro ⟨schema, hschema, hp⟩
      obtain ⟨value, hvalue, rfl⟩ := List.mem_map.mp hschema
      exact ⟨value, noted_of_mem_observed hvalue, hp⟩
    · rintro ⟨value, hnoted, hp⟩
      exact ⟨_, List.mem_map_of_mem (mem_observed_of_noted nodup hnoted), hp⟩
  simp only [MixedProperty, Mixed, ← Bool.not_eq_true, hexists, isNumeric_infer, isType_infer,
    beq_iff_eq, not_or]

/-- Objects have alike schemas in two orders if their order does not matter. -/
theorem alike_permuted_objects (hconfig : ofConfig config clockMs = .ok inferrer)
    (nonempty : objects ≠ []) (unique : ∀ members ∈ objects, (Json.object members).UniqueNames)
    (h : ¬ inferrer.OrderMatters (objects.map .object)) (perm : objects'.Perm objects) :
    (inferrer.infer (.array (objects.map .object))).alike
      (inferrer.infer (.array (objects'.map .object))) = true := by
  rw [alike_infer_objects_iff nonempty unique perm]
  intro name hname
  refine alike_refinedSchema hconfig unique perm hname ?_ ?_
  · rw [mixedProperty_iff fun members hmembers => (unique members hmembers).nodup]
    rintro ⟨⟨integer, hinteger, htype⟩, ⟨number, hnumber, htype'⟩, other, hother, hne, hne'⟩
    exact h (.widening hinteger htype hnumber htype' hother hne hne')
  · intro type values hlisted a ha b hb hab
    by_contra hdiffer
    exact h (.spelling hlisted (noted_of_mem_observed ha) (noted_of_mem_observed hb) hab
      (Bool.eq_false_iff.mpr hdiffer))

/-- One property whose schema differs in some order is enough. -/
theorem exists_not_alike_of_property {value : Json}
    (unique : ∀ members ∈ objects, (Json.object members).UniqueNames)
    (hnoted : Noted objects name value)
    (h : ∃ objects' : List (Members Json), objects'.Perm objects
      ∧ ¬ (inferrer.refinedSchema objects name).alike (inferrer.refinedSchema objects' name)
        = true) :
    ∃ permuted : List Json, permuted.Perm (objects.map .object)
      ∧ ¬ (inferrer.infer (.array (objects.map .object))).alike
        (inferrer.infer (.array permuted)) = true := by
  obtain ⟨objects', perm, hdiffer⟩ := h
  have hobserved := mem_observed_of_noted (fun members hmembers =>
    (unique members hmembers).nodup) hnoted
  refine ⟨objects'.map .object, perm.map _, fun halike => hdiffer ?_⟩
  exact (alike_infer_objects_iff (ne_nil_of_noted hnoted) unique perm).mp halike name
    (List.ne_nil_of_mem hobserved)

end Objects

/-! ### Elements whose order does not matter -/

/-- If the order does not matter, the schemas are equal up to the order of alternatives. -/
theorem alike_of_not_orderMatters (hconfig : ofConfig config clockMs = .ok inferrer)
    {elements permuted : List Json} (unique : ∀ element ∈ elements, element.UniqueNames)
    (h : ¬ inferrer.OrderMatters elements) (perm : permuted.Perm elements) :
    (inferrer.infer (.array elements)).alike (inferrer.infer (.array permuted)) = true := by
  cases elements with
  | nil =>
    rw [perm.eq_nil]
    exact equal_of_same (same_infer_self hconfig (.array unique))
  | cons first rest =>
    cases permuted with
    | nil => cases perm.nil_eq
    | cons first' rest' =>
      have hfirst : first ∈ first' :: rest' := perm.mem_iff.mpr List.mem_cons_self
      have hfirst' : first' ∈ first :: rest := perm.mem_iff.mp List.mem_cons_self
      -- a permutation has the same types, so its schema is made in the same of the three ways
      rcases elements_cases first rest with ⟨objects, hobjects⟩ | ⟨hsame, hobject⟩ | hmixed
      · rw [hobjects] at perm unique h ⊢
        obtain ⟨objects', hobjects', hperm⟩ := exists_objects_of_perm perm
        have nonempty : objects ≠ [] := by
          rintro rfl
          cases hobjects
        rw [hobjects']
        exact alike_permuted_objects hconfig nonempty (List.forall_mem_map.mp unique) h hperm
      · have hkind : first'.kind = first.kind := hsame first' hfirst'
        have hsame' : ∀ element ∈ first' :: rest', element.kind = first'.kind :=
          fun element helement => (hsame element (perm.mem_iff.mp helement)).trans hkind.symm
        rw [alike_infer_cons, sharedSchema_same inferrer hsame hobject,
          sharedSchema_same inferrer hsame' (hkind ▸ hobject)]
        by_contra hdiffer
        exact h (.leading hsame hobject hfirst' (Bool.eq_false_iff.mpr hdiffer))
      · have hmixed' : ∃ element ∈ first' :: rest', element.kind ≠ first'.kind := by
          by_contra hnone
          push Not at hnone
          obtain ⟨element, helement, hne⟩ := hmixed
          exact hne ((hnone element (perm.mem_iff.mpr helement)).trans (hnone first hfirst).symm)
        rw [alike_infer_cons, sharedSchema_mixed inferrer hmixed,
          sharedSchema_mixed inferrer hmixed']
        refine (sameOrChoices_dedup ?_ (perm.symm.map _)).alike
        exact List.forall_mem_map.mpr fun element helement =>
          (emitted_infer hconfig (unique element helement)).tidy

/-! ### Elements whose order matters -/

/-- If the order matters, some order gives another schema. -/
theorem exists_not_alike (hconfig : ofConfig config clockMs = .ok inferrer) {elements : List Json}
    (unique : ∀ element ∈ elements, element.UniqueNames) (h : inferrer.OrderMatters elements) :
    ∃ permuted : List Json, permuted.Perm elements
      ∧ ¬ (inferrer.infer (.array elements)).alike (inferrer.infer (.array permuted)) = true := by
  cases h with
  | @leading first element rest hsame hobject helement hdiffer =>
    -- the other element is brought to the front
    obtain ⟨before, after, heq⟩ := List.append_of_mem helement
    have perm : (element :: (before ++ after)).Perm (first :: rest) := by
      rw [heq]
      exact List.perm_middle.symm
    have hkind : element.kind = first.kind := hsame element helement
    have hsame' : ∀ other ∈ element :: (before ++ after), other.kind = element.kind :=
      fun other hother => (hsame other (perm.mem_iff.mp hother)).trans hkind.symm
    refine ⟨_, perm, ?_⟩
    rw [alike_infer_cons, sharedSchema_same inferrer hsame hobject,
      sharedSchema_same inferrer hsame' (hkind ▸ hobject), hdiffer]
    exact Bool.false_ne_true
  | @widening objects name integer number other hinteger htype hnumber htype' hother hne hne' =>
    have uniqueObjects : ∀ members ∈ objects, (Json.object members).UniqueNames :=
      List.forall_mem_map.mp unique
    refine exists_not_alike_of_property uniqueObjects hinteger
      (exists_not_alike_of_mixed hconfig ?_)
    exact (mixedProperty_iff fun members hmembers => (uniqueObjects members hmembers).nodup).mpr
      ⟨⟨integer, hinteger, htype⟩, ⟨number, hnumber, htype'⟩, other, hother, hne, hne'⟩
  | @spelling objects name a b type values hlisted ha hb hab hdiffer =>
    have uniqueObjects : ∀ members ∈ objects, (Json.object members).UniqueNames :=
      List.forall_mem_map.mp unique
    have nodup : ∀ members ∈ objects, (names members).Nodup := fun members hmembers =>
      (uniqueObjects members hmembers).nodup
    exact exists_not_alike_of_property uniqueObjects ha
      (exists_not_alike_of_spellings hconfig uniqueObjects hlisted
        (mem_observed_of_noted nodup ha) (mem_observed_of_noted nodup hb) hab hdiffer)

/-- The schemas of an array in all orders of its elements are equal up to the order of alternatives,
if and only if the order of the elements matters in none of the three ways. -/
theorem alike_permuted_iff (fixed : config.referenceTimeMs.isSome = true)
    (hconfig : ofConfig config clockMs = .ok inferrer)
    (hconfig' : ofConfig config clockMs' = .ok inferrer') {elements : List Json}
    (unique : (Json.array elements).UniqueNames) :
    (∀ permuted : List Json, permuted.Perm elements →
        (inferrer.infer (.array elements)).alike (inferrer'.infer (.array permuted)) = true) ↔
      ¬ inferrer.OrderMatters elements := by
  obtain rfl := eq_of_fixed fixed hconfig hconfig'
  have uniqueElements : ∀ element ∈ elements, element.UniqueNames := fun _ => unique.of_mem_array
  constructor
  · intro halike hmatters
    obtain ⟨permuted, perm, hdiffer⟩ := exists_not_alike hconfig uniqueElements hmatters
    exact hdiffer (halike permuted perm)
  · intro h permuted perm
    exact alike_of_not_orderMatters hconfig uniqueElements h perm

/-- Two arrays, one of an integer and one of a truth value. -/
def nestedElements : List Json := [.array [oneValue], .array [.bool true]]

theorem nestedElements_unique : (Json.array nestedElements).UniqueNames := by
  refine .array ?_
  simp only [nestedElements, List.forall_mem_cons]
  refine ⟨.array ?_, .array ?_, by simp⟩
  · simp only [List.forall_mem_cons]
    exact ⟨.number, by simp⟩
  · simp only [List.forall_mem_cons]
    exact ⟨.bool, by simp⟩

/-- Neither array has the schema of the other, so the order of the two matters and is seen. -/
theorem alike_permuted_iff_nested :
    ∃ inferrer inferrer', ofConfig openConfig 0 = .ok inferrer
      ∧ ofConfig openConfig 1 = .ok inferrer'
      ∧ (Json.array nestedElements).UniqueNames
      ∧ inferrer.OrderMatters nestedElements
      ∧ ∃ permuted : List Json, permuted.Perm nestedElements
        ∧ (inferrer.infer (.array nestedElements)).alike (inferrer'.infer (.array permuted))
          = false := by
  obtain ⟨inferrer, hconfig⟩ := ofConfig_open
  have fixed : openConfig.referenceTimeMs.isSome = true := rfl
  have hconfig' : ofConfig openConfig 1 = .ok inferrer :=
    (ofConfig_eq_of_fixed fixed).trans hconfig
  have hkind : ∀ element ∈ nestedElements, element.kind = .array := by
    simp [nestedElements, Json.kind]
  have hmatters : inferrer.OrderMatters nestedElements :=
    .leading hkind nofun (List.mem_cons_of_mem _ List.mem_cons_self) rfl
  have hdiffer := mt (alike_permuted_iff fixed hconfig hconfig' nestedElements_unique).mp
    (not_not_intro hmatters)
  push Not at hdiffer
  obtain ⟨permuted, perm, hdiffer⟩ := hdiffer
  exact ⟨inferrer, inferrer, hconfig, hconfig', nestedElements_unique, hmatters, permuted, perm,
    Bool.eq_false_iff.mpr hdiffer⟩

/-- Whichever of the two arrays comes first gives its schema to both. -/
theorem not_alike_nested :
    ∃ inferrer, openConfig.referenceTimeMs.isSome = true ∧ ofConfig openConfig 0 = .ok inferrer
      ∧ (Json.array nestedElements).UniqueNames ∧ nestedElements.reverse.Perm nestedElements
      ∧ (inferrer.infer (.array nestedElements)).alike
        (inferrer.infer (.array nestedElements.reverse)) = false := by
  obtain ⟨inferrer, hconfig⟩ := ofConfig_open
  refine ⟨inferrer, rfl, hconfig, nestedElements_unique, List.reverse_perm _, ?_⟩
  rfl

end Inferrer

end JsonShape
