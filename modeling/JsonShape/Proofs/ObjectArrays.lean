import JsonShape.Proofs.Alternatives
import JsonShape.Proofs.MergedProperties
import JsonShape.Proofs.Outcomes

/-!
# Comparing the schemas of arrays of objects

The schema for the elements of an array of objects is put together property by property. Two arrays
with as many objects, as many of which have each property, require the same properties, so their
schemas differ only where the refined schemas of a property do.

Main statement: `Inferrer.equal_unify_iff`, the schemas for the elements of such arrays are equal,
with the order of alternatives counted or not, if and only if those of each property are.
-/

namespace JsonShape

open Members

/-- Members without repeated names are related if what is found under each name is. -/
theorem Members.relate_iff_lookup {α β : Type} {related : α → β → Bool} {as : Members α}
    {bs : Members β} (nodup : (names as).Nodup) (nodup' : (names bs).Nodup) :
    relate related as bs = true ↔
      ∀ name, relateOption related (as.lookup name) (bs.lookup name) = true := by
  constructor
  · intro h name
    cases ha : as.lookup name with
    | none =>
      have hname : name ∉ names bs :=
        mt (perm_names_of_relate nodup h).mem_iff.mpr (lookup_eq_none.mp ha)
      rw [lookup_eq_none.mpr hname]
      rfl
    | some a =>
      obtain ⟨b, hb, hrelated⟩ := (relate_iff.mp h).2 (name, a) (mem_of_lookup ha)
      rw [hb]
      exact hrelated
  · intro h
    -- a name of only one of the lists would have a value on that side and none on the other
    have hnames : ∀ name, name ∈ names as ↔ name ∈ names bs := by
      intro name
      rw [← not_iff_not, ← lookup_eq_none, ← lookup_eq_none]
      have hname := h name
      cases ha : as.lookup name <;> cases hb : bs.lookup name <;> simp_all [relateOption]
    refine relate_iff.mpr ⟨?_, fun entry hentry => ?_⟩
    · simpa [names] using ((List.perm_ext_iff_of_nodup nodup nodup').mpr hnames).length_eq
    · have hname := h entry.1
      rw [lookup_of_mem nodup hentry] at hname
      exact relateOption_some hname

namespace Inferrer

open Schema Refinement

variable {inferrer : Inferrer} {objects objects' : List (Members Json)}

/-! ### Required names -/

theorem sortedNames_eq_of_perm {required others : List String} (perm : required.Perm others) :
    sortedNames required = sortedNames others := by
  unfold sortedNames
  rw [perm.isEmpty_eq, mergeSort_eq_of_perm perm]

/-- A property is required if it is observed in every object. -/
theorem mem_requiredNames (nodup : ∀ members ∈ objects, (names members).Nodup) {name : String} :
    name ∈ inferrer.requiredNames objects ↔ observed name (objects.map .object) ≠ []
      ∧ (observed name (objects.map .object)).length = objects.length := by
  have hall : (objects.all fun members => contains members name) = true ↔
      (observed name (objects.map .object)).length = objects.length := by
    have hlength : (objects.map Json.object).length = objects.length := List.length_map _
    rw [← hlength, observed, List.filterMap_length_eq_length, List.all_eq_true,
      List.forall_mem_map]
    rfl
  rw [requiredNames, List.mem_filter, mem_names_mergedProperties nodup, hall]

/-! ### The schemas of the elements -/

/-- As many objects, and as many of them with each property. -/
structure SameCounts (objects objects' : List (Members Json)) : Prop where
  length : objects.length = objects'.length
  observed : ∀ name, (Refinement.observed name (objects.map .object)).length
    = (Refinement.observed name (objects'.map .object)).length

theorem SameCounts.observed_eq_nil_iff (h : SameCounts objects objects') (name : String) :
    Refinement.observed name (objects.map .object) = []
      ↔ Refinement.observed name (objects'.map .object) = [] := by
  rw [← List.length_eq_zero_iff, h.observed, List.length_eq_zero_iff]

theorem SameCounts.sortedNames_eq (h : SameCounts objects objects')
    (nodup : ∀ members ∈ objects, (names members).Nodup)
    (nodup' : ∀ members ∈ objects', (names members).Nodup) :
    sortedNames (inferrer.requiredNames objects)
      = sortedNames (inferrer.requiredNames objects') := by
  refine sortedNames_eq_of_perm ((List.perm_ext_iff_of_nodup ?_ ?_).mpr fun name => ?_)
  · exact (nodup_mergedProperties objects).filter _
  · exact (nodup_mergedProperties objects').filter _
  · rw [mem_requiredNames nodup, mem_requiredNames nodup', h.observed, h.length, Ne,
      h.observed_eq_nil_iff]

variable (inferrer) in
/-- The schema of a property of some objects, after all refinements. -/
def refinedSchema (objects : List (Members Json)) (name : String) : Schema :=
  inferrer.refine (objects.map .object) name
    (inferrer.propertySchema (observed name (objects.map .object)))

theorem emitted_propertySchema {config : InferenceConfig} {clockMs : Int}
    (hconfig : ofConfig config clockMs = .ok inferrer) {values : List Json}
    (nonempty : values ≠ []) (unique : ∀ value ∈ values, value.UniqueNames) :
    (inferrer.propertySchema values).Emitted := by
  have hne : values.map inferrer.infer ≠ [] := by simpa using nonempty
  refine emitted_choice (dedup_ne_nil (widened_ne_nil hne)) fun part hpart => ?_
  -- an alternative is the schema of numbers, or that of a value
  rcases mem_dedup_widened hpart with rfl | ⟨value, hvalue, rfl⟩
  · exact emitted_simple .number none none
  · exact emitted_infer hconfig (unique value hvalue)

/-- The schemas of the elements are equal if those of each property are. -/
theorem equal_unify_iff {ordered : Bool} (h : SameCounts objects objects')
    (nodup : ∀ members ∈ objects, (names members).Nodup)
    (nodup' : ∀ members ∈ objects', (names members).Nodup) :
    (inferrer.unify ((objects.map .object).map inferrer.infer) (objects.map .object)).equal ordered
        (inferrer.unify ((objects'.map .object).map inferrer.infer) (objects'.map .object)) = true ↔
      ∀ name, observed name (objects.map .object) ≠ [] →
        (inferrer.refinedSchema objects name).equal ordered (inferrer.refinedSchema objects' name)
          = true := by
  -- the required names agree, so it is left to compare the properties name by name
  rw [unify_eq, unify_eq, equal_objectSchema, h.sortedNames_eq nodup nodup', beq_self_eq_true,
    Bool.true_and, relate_iff_lookup]
  · refine forall_congr' fun name => ?_
    rw [lookup_refinedProperties nodup, lookup_refinedProperties nodup']
    by_cases hnone : observed name (objects.map .object) = []
    · rw [if_pos hnone, if_pos ((h.observed_eq_nil_iff name).mp hnone)]
      exact iff_of_true rfl fun hne => absurd hnone hne
    · rw [if_neg hnone, if_neg (mt (h.observed_eq_nil_iff name).mpr hnone)]
      exact ⟨fun hequal _ => hequal, fun hequal => hequal hnone⟩
  · rw [names_refinedProperties]
    exact nodup_mergedProperties objects
  · rw [names_refinedProperties]
    exact nodup_mergedProperties objects'

end Inferrer

end JsonShape
