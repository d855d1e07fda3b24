import JsonShape.Proofs.Equivalence
import JsonShape.Proofs.MergedProperties
import JsonShape.Proofs.Observations

/-!
# The normal form of inferred schemas

An inferred schema says nothing twice and nothing in vain: required names are in order and are names
of properties, a choice is nothing but a choice between different schemas that are no choices, and
the schema without keywords stands only where nothing is known, under an empty array.

Main statement: `Inferrer.normal_infer`, whatever the settings are, the schema of a value is in
normal form at every depth.
-/

namespace JsonShape

open Members

namespace Schema

/-- The keywords of one schema are in normal form. -/
structure NormalNode (facets : Facets) (parts : Parts Schema) : Prop where
  extra : facets.extra = []
  required : ∀ required, facets.required = some required →
    required ≠ [] ∧ required.Pairwise (· < ·)
      ∧ ∃ properties, parts.properties = some properties ∧ required ⊆ names properties
  oneOf : ∀ alternatives, parts.oneOf = some alternatives →
    object facets parts = oneOf alternatives ∧ 2 ≤ alternatives.length
      ∧ alternatives.Pairwise (fun a b => a.same b = false ∧ b.same a = false)
      ∧ ∀ part ∈ alternatives, part.Plain

/-- A schema that is inferred from a value, or stands below such a one, is in normal form. -/
inductive Normal (value : Json) : Schema → Prop
  | object {facets parts} : NormalNode facets parts → object facets parts ≠ empty →
      (∀ part ∈ parts.toList, Normal value part) → Normal value (object facets parts)
  /-- Only of an empty array nothing is known. -/
  | emptyArray : (Json.array []).Within value →
      Normal value (object (.typed .array) { items := some (.single empty) })

variable {schema : Schema} {value : Json}

theorem Normal.mono {inner outer : Json} (h : schema.Normal inner) (within : inner.Within outer) :
    schema.Normal outer := by
  induction h with
  | object hnode hne _ ih => exact .object hnode hne ih
  | emptyArray hempty => exact .emptyArray (hempty.trans within)

/-! ### Schemas in normal form -/

theorem object_ne_empty {facets : Facets} {parts : Parts Schema} (h : facets.type ≠ none) :
    object facets parts ≠ empty := by
  intro heq
  cases heq
  exact h rfl

theorem normal_of_facets {facets : Facets} (hextra : facets.extra = [])
    (hrequired : facets.required = none) (htype : facets.type ≠ none) :
    (object facets {}).Normal value := by
  refine .object ⟨hextra, ?_, ?_⟩ (object_ne_empty htype) fun _ h => (by cases h)
  · intro required h
    rw [hrequired] at h
    cases h
  · rintro _ ⟨⟩

theorem normal_array {facets : Facets} (hextra : facets.extra = [])
    (hrequired : facets.required = none) (htype : facets.type ≠ none)
    (hschema : schema.Normal value) :
    (object facets { items := some (.single schema) }).Normal value := by
  refine .object ⟨hextra, ?_, ?_⟩ (object_ne_empty htype) ?_
  · intro required h
    rw [hrequired] at h
    cases h
  · rintro _ ⟨⟩
  · intro part hpart
    rw [List.mem_singleton.mp hpart]
    exact hschema

/-- Different schemas that are no choices can be chosen from. -/
theorem normal_choice {schemas : List Schema} (nonempty : schemas ≠ [])
    (distinct : Distinct schemas) (plain : ∀ part ∈ schemas, part.Plain)
    (tidy : ∀ part ∈ schemas, part.Tidy) (h : ∀ part ∈ schemas, part.Normal value) :
    (choice schemas).Normal value := by
  obtain ⟨schema, rfl, heq⟩ | ⟨hlength, heq⟩ := choice_cases schemas <;> rw [heq]
  · exact h schema (List.mem_singleton_self _)
  refine .object ⟨rfl, by rintro _ ⟨⟩, ?_⟩ (by rintro ⟨⟩) ?_
  · rintro alternatives ⟨⟩
    refine ⟨rfl, ?_, ?_, plain⟩
    · have hpos := List.length_pos_of_ne_nil nonempty
      omega
    · -- equality is symmetric on what is inferred, so different means different either way
      refine distinct.imp_of_mem fun hfirst hsecond hdiffer => ⟨hdiffer, ?_⟩
      refine Bool.eq_false_iff.mpr fun hsame => ?_
      rw [(tidy _ hsecond).same_symm hsame] at hdiffer
      cases hdiffer
  · intro part hpart
    exact h part (by simpa [Parts.toList] using hpart)

end Schema

namespace Inferrer

open Schema Refinement

variable {config : InferenceConfig} {clockMs : Int} {inferrer : Inferrer} {value : Json}

theorem pairwise_of_sortedNames {required sorted : List String} (nodup : required.Nodup)
    (h : sortedNames required = some sorted) : sorted ≠ [] ∧ sorted.Pairwise (· < ·) := by
  obtain ⟨hne, rfl⟩ := sortedNames_eq_some_iff.mp h
  refine ⟨fun hnil => ?_, pairwise_lt_mergeSort nodup⟩
  have hperm := List.mergeSort_perm required fun a b => decide (a ≤ b)
  rw [hnil] at hperm
  exact hne hperm.symm.eq_nil

theorem normal_objectSchema {properties : Members Schema} {required : List String}
    (nodup : required.Nodup) (hsubset : required ⊆ names properties)
    (h : ∀ entry ∈ properties, entry.2.Normal value) :
    (objectSchema properties required).Normal value := by
  refine .object ⟨rfl, ?_, by rintro _ ⟨⟩⟩ (object_ne_empty (by simp)) ?_
  · intro sorted hsorted
    have hnames : sortedNames required = some sorted := hsorted
    obtain ⟨hne, hpairwise⟩ := pairwise_of_sortedNames nodup hnames
    refine ⟨hne, hpairwise, properties, rfl, fun name hname => hsubset ?_⟩
    refine mem_names_of_mem_required (rfl : (objectSchema properties required).facets? = some _) ?_
    show name ∈ (sortedNames required).getD []
    rwa [hnames]
  · intro part hpart
    have hvalue : part ∈ properties.map Prod.snd := by simpa [Parts.toList] using hpart
    obtain ⟨entry, hentry, rfl⟩ := List.mem_map.mp hvalue
    exact h entry hentry

theorem normal_of_refined {property : String} {samples : List Json} {schema refined : Schema}
    (hrefined : Refined property samples schema refined) (h : schema.Normal value) :
    refined.Normal value := by
  cases hrefined with
  | kept => exact h
  | listed => exact normal_of_facets rfl rfl (by simp)
  | tuple =>
    exact normal_array rfl rfl (by simp) (normal_of_facets rfl rfl (by simp [Facets.typed]))
  | recent => exact normal_of_facets rfl rfl (by simp)

/-- A choice between the different schemas of values is in normal form if these are. -/
theorem normal_propertySchema (hconfig : ofConfig config clockMs = .ok inferrer)
    {values : List Json} (nonempty : values ≠ []) (unique : ∀ inner ∈ values, inner.UniqueNames)
    (h : ∀ inner ∈ values, (inferrer.infer inner).Normal value) :
    (inferrer.propertySchema values).Normal value := by
  refine normal_choice (dedup_ne_nil (widened_ne_nil (by simpa using nonempty))) (distinct_dedup _)
    (fun part hpart => ?_) (fun part hpart => ?_) (fun part hpart => ?_)
  · obtain rfl | ⟨inner, -, rfl⟩ := mem_dedup_widened hpart
    · rfl
    · exact plain_infer inferrer inner
  · obtain rfl | ⟨inner, hinner, rfl⟩ := mem_dedup_widened hpart
    · exact (emitted_simple .number none none).tidy
    · exact (emitted_infer hconfig (unique inner hinner)).tidy
  · obtain rfl | ⟨inner, hinner, rfl⟩ := mem_dedup_widened hpart
    · exact normal_of_facets rfl rfl (by simp [Facets.typed])
    · exact h inner hinner

/-! ### Inferred schemas -/

theorem noted_of_mem_observed {objects : List (Members Json)} {name : String} {inner : Json}
    (h : inner ∈ observed name (objects.map .object)) : Noted objects name inner := by
  obtain ⟨sample, hsample, hlookup⟩ := mem_observed.mp h
  obtain ⟨members, hmembers, rfl⟩ := List.mem_map.mp hsample
  exact ⟨members, hmembers, mem_of_lookup hlookup⟩

theorem uniqueNames_of_mem_observed {objects : List (Members Json)} {name : String} {inner : Json}
    (unique : ∀ members ∈ objects, (Json.object members).UniqueNames)
    (h : inner ∈ observed name (objects.map .object)) : inner.UniqueNames := by
  obtain ⟨members, hmembers, hmem⟩ := noted_of_mem_observed h
  exact (unique members hmembers).of_mem_object hmem

theorem normal_unify (hconfig : ofConfig config clockMs = .ok inferrer)
    {objects : List (Members Json)}
    (unique : ∀ members ∈ objects, (Json.object members).UniqueNames)
    (h : ∀ name inner, Noted objects name inner → (inferrer.infer inner).Normal value) :
    (inferrer.unify ((objects.map Json.object).map inferrer.infer)
      (objects.map Json.object)).Normal value := by
  have nodup : ∀ members ∈ objects, (names members).Nodup := fun members hmembers =>
    (unique members hmembers).nodup
  have hmerged : (names (inferrer.mergedProperties objects)).Nodup := nodup_mergedProperties objects
  rw [unify_eq]
  refine normal_objectSchema (hmerged.filter _) ?_ ?_
  · rw [names_refinedProperties]
    exact List.filter_subset_self _
  · intro entry hentry
    obtain ⟨⟨name, merged⟩, hmem, rfl⟩ := List.mem_map.mp hentry
    refine normal_of_refined (refined_refine hconfig _ name merged) ?_
    have hlookup := lookup_of_mem hmerged hmem
    rw [lookup_mergedProperties nodup] at hlookup
    split at hlookup
    · cases hlookup
    · next nonempty =>
      cases hlookup
      exact normal_propertySchema hconfig nonempty
        (fun inner hinner => uniqueNames_of_mem_observed unique hinner)
        fun inner hinner => h name inner (noted_of_mem_observed hinner)

theorem normal_of_mem {members : Members Json}
    (h : (inferrer.infer (.object members)).Normal value) {name : String} {inner : Json}
    (hmem : (name, inner) ∈ members) : (inferrer.infer inner).Normal value := by
  rw [infer_object] at h
  cases h with
  | object _ _ hbelow =>
    have hentry : (name, inferrer.infer inner) ∈ Parts.mapMembers inferrer.infer members :=
      mem_mapMembers.mpr ⟨inner, hmem, rfl⟩
    exact hbelow _ (Parts.mem_toList_of_properties rfl hentry)

/-- Inferred schemas are in normal form. -/
theorem normal_infer (hconfig : ofConfig config clockMs = .ok inferrer)
    (unique : value.UniqueNames) : (inferrer.infer value).Normal value := by
  induction unique with
  | null | bool | number | string =>
    exact normal_of_facets rfl rfl (by simp [Facets.typed])
  | @array elements helements ih =>
    cases elements with
    | nil => exact .emptyArray .self
    | cons first rest =>
      have hbelow : ∀ element ∈ first :: rest,
          (inferrer.infer element).Normal (.array (first :: rest)) := fun element helement =>
        (ih element helement).mono (.element helement .self)
      rw [infer_cons]
      refine normal_array rfl rfl (by simp) ?_
      rcases elements_cases first rest with ⟨objects, hobjects⟩ | ⟨hsame, hobject⟩ | hmixed
      · rw [sharedSchema_objects inferrer hobjects]
        have hmem : ∀ members ∈ objects, Json.object members ∈ first :: rest :=
          fun members hmembers => hobjects ▸ List.mem_map_of_mem hmembers
        refine normal_unify hconfig (fun members hmembers => helements _ (hmem members hmembers)) ?_
        rintro name inner ⟨members, hmembers, hinner⟩
        -- the hypothesis is about whole objects; their properties are below them
        exact normal_of_mem (hbelow _ (hmem members hmembers)) hinner
      · rw [sharedSchema_same inferrer hsame hobject]
        exact hbelow first List.mem_cons_self
      · rw [sharedSchema_mixed inferrer hmixed]
        have hcases : ∀ part ∈ dedup ((first :: rest).map inferrer.infer),
            ∃ element ∈ first :: rest, inferrer.infer element = part := fun part hpart =>
          List.mem_map.mp (mem_of_mem_dedup hpart)
        refine normal_choice (dedup_ne_nil (List.cons_ne_nil _ _)) (distinct_dedup _)
          (fun part hpart => ?_) (fun part hpart => ?_) (fun part hpart => ?_)
        all_goals obtain ⟨element, helement, rfl⟩ := hcases part hpart
        · exact plain_infer inferrer element
        · exact (emitted_infer hconfig (helements element helement)).tidy
        · exact hbelow element helement
  | @object members nodup hmembers ih =>
    rw [infer_object]
    refine normal_objectSchema ?_ ?_ ?_
    · exact nodup.sublist (List.filter_sublist.map _)
    · rw [names_mapMembers]
      exact List.map_subset _ (List.filter_subset_self _)
    · intro entry hentry
      obtain ⟨inner, hinner, heq⟩ := mem_mapMembers.mp hentry
      rw [← heq]
      exact (ih (entry.1, inner) hinner).mono (.member hinner .self)

/-- An array of objects with a property of three types, one of them of empty arrays. -/
def mixedSamples : Json :=
  .array
    [.object [("b", .null), ("a", oneValue)], .object [("a", .array [])], .object [("a", .null)]]

theorem mixedSamples_unique : mixedSamples.UniqueNames := by
  refine .array ?_
  simp only [List.forall_mem_cons]
  refine ⟨.object (by decide) ?_, .object (by decide) ?_, .object (by decide) ?_, by simp⟩
  · simp only [List.forall_mem_cons]
    exact ⟨.null, .number, by simp⟩
  · simp only [List.forall_mem_cons]
    exact ⟨.array (by simp), by simp⟩
  · simp only [List.forall_mem_cons]
    exact ⟨.null, by simp⟩

theorem normal_infer_mixed :
    ∃ inferrer, ofConfig openConfig 0 = .ok inferrer ∧ mixedSamples.UniqueNames
      ∧ (inferrer.infer mixedSamples).Normal mixedSamples := by
  obtain ⟨inferrer, hconfig⟩ := ofConfig_open
  exact ⟨inferrer, hconfig, mixedSamples_unique, normal_infer hconfig mixedSamples_unique⟩

end Inferrer

end JsonShape
