import JsonShape.Proofs.Elements
import JsonShape.Proofs.Refining

/-!
# One schema for the elements of an array

The elements of an array of objects get one schema. Its properties are merged from those of the
elements and then refined.

Main statement: by `Inferrer.unify_holds`, whatever the settings are, this schema holds of every
element in the lax reading, if the schema of each property value holds of that value, and it
requires only properties that every element has.
-/

namespace JsonShape

namespace Inferrer

open Members Schema Refinement

variable (inferrer : Inferrer)

/-! ### Merged properties -/

/-- The merged properties of objects, before they are refined. -/
def mergedProperties (objects : List (Members Json)) : Members Schema :=
  (objects.map (Parts.mapMembers inferrer.infer)).foldl mergeProperties []

/-- A property is observed with a value in one of the objects. -/
def Noted (objects : List (Members Json)) (name : String) (value : Json) : Prop :=
  ∃ members ∈ objects, (name, value) ∈ members

variable {inferrer}

/-- The merged properties have an alternative for every value that its own schema fits. -/
theorem gathers_mergedProperties {unmixed : Schema → Prop} (isUnmixed : Unmixed unmixed)
    {fits : Schema → Json → Prop} (coverable : Coverable fits) {objects : List (Members Json)}
    (hobjects : ∀ name value, Noted objects name value → unmixed (inferrer.infer value)) :
    Gathers unmixed fits (inferrer.mergedProperties objects) fun name value =>
      Noted objects name value ∧ fits (inferrer.infer value) value := by
  refine (gathers_all isUnmixed coverable ?_).mono ?_
  · intro properties hproperties entry hentry
    obtain ⟨members, hmembers, rfl⟩ := List.mem_map.mp hproperties
    obtain ⟨value, hvalue, heq⟩ := mem_mapMembers.mp hentry
    rw [← heq]
    exact hobjects entry.1 value ⟨members, hmembers, hvalue⟩
  · rintro name value ⟨⟨members, hmembers, hmem⟩, hfits⟩
    exact ⟨_, List.mem_map_of_mem hmembers, inferrer.infer value,
      mem_mapMembers.mpr ⟨value, hmem, rfl⟩, hfits⟩

/-- The schema of the elements: the merged properties are refined one by one. -/
theorem unify_objects (objects : List (Members Json)) :
    let samples := objects.map Json.object
    inferrer.unify (samples.map inferrer.infer) samples = objectSchema
      ((inferrer.mergedProperties objects).map fun entry =>
        (entry.1, inferrer.refine samples entry.1 entry.2))
      ((inferrer.mergedProperties objects).names.filter fun name =>
        objects.all fun members => contains members name) := by
  intro samples
  have hproperties : (samples.map inferrer.infer).map propertiesOf
      = objects.map (Parts.mapMembers inferrer.infer) := by
    show ((objects.map Json.object).map inferrer.infer).map propertiesOf = _
    rw [List.map_map, List.map_map]
    exact List.map_congr_left fun members _ => propertiesOf_infer inferrer members
  have hrequired : ∀ name, ((samples.map inferrer.infer).all fun schema =>
      contains (propertiesOf schema) name) = objects.all fun members => contains members name := by
    intro name
    show (((objects.map Json.object).map inferrer.infer).all _) = _
    rw [List.map_map, List.all_map]
    refine List.all_congr rfl fun members => ?_
    show contains (propertiesOf (inferrer.infer (.object members))) name = _
    rw [propertiesOf_infer, contains, lookup_mapMembers, Option.isSome_map]
    rfl
  unfold unify
  -- required is what every object has, which its schema has as a property
  simp only [hproperties, hrequired, foldl_apply]
  rfl

/-- The schema of an array of objects takes that of its elements from all of them. -/
theorem infer_objects {objects : List (Members Json)} (nonempty : objects ≠ []) :
    let samples := objects.map Json.object
    inferrer.infer (.array samples) =
      .object { type := some (.single .array), minItems := some 0 }
        { items := some (.single (inferrer.unify (samples.map inferrer.infer) samples)) } := by
  cases objects with
  | nil => exact absurd rfl nonempty
  | cons members rest =>
    have hobjects : Json.object members :: rest.map .object = (members :: rest).map Json.object :=
      List.map_cons.symm
    intro samples
    rw [← sharedSchema_objects inferrer hobjects]
    exact infer_cons inferrer _ _

/-! ### The schema of the elements -/

theorem coverable_holds : Coverable fun schema value => schema.holds .lax value = true where
  same := holds_of_same
  widen := by
    intro schema value htype h
    have hnumber : ∃ number, value = .number number := by
      rcases htype with htype | htype
      all_goals
        have hvalue := hasValue_of_holds htype h
        cases value with
        | number number => exact ⟨number, rfl⟩
        | _ => cases hvalue
    obtain ⟨number, rfl⟩ := hnumber
    rfl

theorem holds_of_covers {schema : Schema} {value : Json} (hmergeable : schema.Mergeable Plain)
    (h : Covers (fun schema value => schema.holds .lax value = true) schema value) :
    schema.holds .lax value = true := by
  rcases hmergeable with hplain | ⟨alternatives, rfl, _⟩
  · obtain ⟨alternative, hmem, hholds⟩ := h
    rw [hplain.alternatives_eq, List.mem_singleton] at hmem
    rw [← hmem]
    exact hholds
  · exact holds_oneOf.mpr (chooses_lax.mpr h)

theorem sortedNames_eq_some_iff {required sorted : List String} :
    sortedNames required = some sorted ↔
      required ≠ [] ∧ required.mergeSort (fun a b => decide (a ≤ b)) = sorted := by
  unfold sortedNames
  split
  · next hempty =>
    exact iff_of_false nofun fun h => h.1 (List.isEmpty_iff.mp hempty)
  · next hne =>
    rw [Option.some.injEq, and_iff_right (mt List.isEmpty_iff.mpr hne)]

theorem sortedNames_eq_none {required : List String} :
    sortedNames required = none ↔ required = [] := by
  rw [Option.eq_none_iff_forall_ne_some]
  simp [sortedNames_eq_some_iff]

theorem mem_sortedNames {required : List String} {name : String} :
    name ∈ (sortedNames required).getD [] ↔ name ∈ required := by
  cases h : sortedNames required with
  | none =>
    rw [sortedNames_eq_none.mp h]
    rfl
  | some sorted =>
    rw [Option.getD_some, ← (sortedNames_eq_some_iff.mp h).2]
    exact List.mem_mergeSort

theorem mem_names_of_mem_required {properties : Members Schema} {required : List String}
    {facets : Facets} (hfacets : (objectSchema properties required).facets? = some facets)
    {name : String} (hname : name ∈ facets.required.getD []) : name ∈ required := by
  cases hfacets
  exact mem_sortedNames.mp hname

/-- The schema of objects holds of an object if the required names are its own, and each property
schema holds of the value under its name. -/
theorem holds_objectSchema {reading : Reading} {properties : Members Schema}
    {required : List String} {members : Members Json} :
    (objectSchema properties required).holds reading (.object members) = true ↔
      (∀ name ∈ required, name ∈ names members)
        ∧ ∀ entry ∈ properties, ∀ value, members.lookup entry.1 = some value →
          entry.2.holds reading value = true := by
  have hrequired : ((sortedNames required).getD []).all (contains members) = true ↔
      ∀ name ∈ required, name ∈ names members := by
    rw [List.all_eq_true]
    simp only [contains_iff, mem_sortedNames]
  unfold objectSchema
  rw [holds_object, admits_facets, admits_parts, ← hrequired]
  constructor
  · rintro ⟨⟨_, _, hnames, _⟩, _, hproperties, _⟩
    exact ⟨hnames members rfl, hproperties members rfl⟩
  · rintro ⟨hnames, hproperties⟩
    refine ⟨⟨rfl, rfl, ?_, ?_⟩, ?_, ?_, ?_⟩
    · rintro _ ⟨⟩
      exact hnames
    · rintro _ ⟨⟩
    · rintro _ ⟨⟩
    · rintro _ ⟨⟩
      exact hproperties
    · rintro _ _ ⟨⟩

/-- Unifying objects loses no observation. The schema of the elements holds of each element, up to
the choice between alternatives and the spelling of listed numbers, if the schema of each property
value holds of that value; and what it requires is in every element. -/
theorem unify_holds {config : InferenceConfig} {clockMs : Int}
    (hconfig : ofConfig config clockMs = .ok inferrer) {objects : List (Members Json)}
    (nonempty : objects ≠ [])
    (own : ∀ members ∈ objects, ∀ entry ∈ members,
      (inferrer.infer entry.2).holds .lax entry.2 = true) :
    let samples := objects.map Json.object
    let schema := inferrer.unify (samples.map inferrer.infer) samples
    inferrer.infer (.array samples) =
        .object { type := some (.single .array), minItems := some 0 }
          { items := some (.single schema) }
      ∧ (∀ sample ∈ samples, schema.holds .lax sample = true)
      ∧ ∀ facets, schema.facets? = some facets → ∀ name ∈ facets.required.getD [],
        ∀ members ∈ objects, name ∈ names members := by
  intro samples schema
  have hschema : schema = objectSchema
      ((inferrer.mergedProperties objects).map fun entry =>
        (entry.1, inferrer.refine samples entry.1 entry.2))
      ((inferrer.mergedProperties objects).names.filter fun name =>
        objects.all fun members => contains members name) := unify_objects objects
  have hrequired : ∀ name ∈ (inferrer.mergedProperties objects).names.filter (fun name =>
      objects.all fun members => contains members name), ∀ members ∈ objects,
      name ∈ names members := by
    intro name hname members hmembers
    have hall := (List.mem_filter.mp hname).2
    exact contains_iff.mp (List.all_eq_true.mp hall members hmembers)
  refine ⟨infer_objects nonempty, ?_, ?_⟩
  · intro sample hsample
    obtain ⟨members, hmembers, rfl⟩ := List.mem_map.mp hsample
    rw [hschema]
    refine holds_objectSchema.mpr ⟨fun name hname => hrequired name hname members hmembers, ?_⟩
    rintro _ hentry value hvalue
    obtain ⟨⟨name, merged⟩, hmerged, rfl⟩ := List.mem_map.mp hentry
    have hgathers := gathers_mergedProperties unmixed_plain coverable_holds
      fun _ value (_ : Noted objects _ value) => plain_infer inferrer value
    have hmem : (name, value) ∈ members := mem_of_lookup hvalue
    obtain ⟨found, hfound, hcovers⟩ := hgathers.covers name value
      ⟨⟨members, hmembers, hmem⟩, own members hmembers (name, value) hmem⟩
    -- names are not repeated, so the covering schema is the one at this place
    have heq : found = merged := by
      have hlookup := lookup_of_mem hgathers.nodup hmerged
      rw [hfound] at hlookup
      exact Option.some.inj hlookup
    rw [heq] at hfound hcovers
    refine holds_of_refined (refined_refine hconfig samples name merged) ?_
      (holds_of_covers (hgathers.mergeable name merged hfound) hcovers)
    exact mem_observed.mpr ⟨_, hsample, hvalue⟩
  · intro facets hfacets name hname
    rw [hschema] at hfacets
    exact hrequired name (mem_names_of_mem_required hfacets hname)

/-- Settings with the empty pattern, which is found in every name. -/
def openConfig : InferenceConfig :=
  { coordinatePattern := "", timestampPattern := "", referenceTimeMs := some 0 }

theorem ofConfig_open : ∃ inferrer, ofConfig openConfig 0 = .ok inferrer := by
  have hempty : (Regex.compile "").toBool = true := by cbv
  exact exists_ofConfig 0 hempty hempty

/-- The integer one. -/
def oneValue : Json := .number (.integer 1 (by decide))

/-- Two objects of which the second has another type of value, and another property. -/
def mixedObjects : List (Members Json) :=
  [[("a", oneValue)], [("a", .bool true), ("b", .null)]]

theorem unify_holds_mixed :
    ∃ inferrer, ofConfig openConfig 0 = .ok inferrer
      ∧ (∀ members ∈ mixedObjects, ∀ entry ∈ members,
        (inferrer.infer entry.2).holds .lax entry.2 = true)
      ∧ ∀ sample ∈ mixedObjects.map Json.object,
        (inferrer.unify ((mixedObjects.map Json.object).map inferrer.infer)
          (mixedObjects.map Json.object)).holds .lax sample = true := by
  obtain ⟨inferrer, hconfig⟩ := ofConfig_open
  have own : ∀ members ∈ mixedObjects, ∀ entry ∈ members,
      (inferrer.infer entry.2).holds .lax entry.2 = true := by
    simp only [mixedObjects, List.forall_mem_cons]
    exact ⟨⟨rfl, fun _ h => (by cases h)⟩, ⟨rfl, rfl, fun _ h => (by cases h)⟩,
      fun _ h => (by cases h)⟩
  have nonempty : mixedObjects ≠ [] := List.cons_ne_nil _ _
  exact ⟨inferrer, hconfig, own, (unify_holds hconfig nonempty own).2.1⟩

end Inferrer

end JsonShape
