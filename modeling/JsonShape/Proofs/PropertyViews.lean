import JsonShape.Proofs.Equivalence
import JsonShape.Proofs.PropertyEdits

/-!
# Schemas by their properties and required names

The two maps of properties, the required names and the other keywords are all there is to a schema
(`Schema.eq_of_views`). What is known of these views is known of the schema: whether it repeats a
name (`Schema.UniqueNames.of_views`), and whether it equals another.

Main statement: `Schema.UniqueNames.same_of_perm`, schemas whose other views agree are equal if
their maps differ in order only.
-/

namespace JsonShape

open Members

/-- A keyword is that of a map of properties, or the required names, or another. -/
theorem Keyword.view_cases (k : Keyword) :
    (∃ kind : PropertyKind, k = .map kind.keyword) ∨ k = .required
      ∨ (k ≠ .required ∧ ∀ kind : PropertyKind, k ≠ .map kind.keyword) := by
  by_cases hmap : ∃ kind : PropertyKind, k = .map kind.keyword
  · exact .inl hmap
  · by_cases hrequired : k = .required
    · exact .inr (.inl hrequired)
    · exact .inr (.inr ⟨hrequired, not_exists.mp hmap⟩)

theorem field?_eq_of_otherKeywords {facets facets' : Facets} {parts parts' : Parts Schema}
    (h : (Schema.object facets parts).otherKeywords = (Schema.object facets' parts').otherKeywords)
    {k : Keyword} (hrequired : k ≠ .required)
    (hmap : ∀ kind : PropertyKind, k ≠ .map kind.keyword) :
    field? facets parts k = field? facets' parts' k := by
  -- the other keywords are the schema with these three fields left empty
  have hblank (facets : Facets) (parts : Parts Schema) :
      field? facets parts k = field? { facets with required := none }
        { parts with properties := none, patternProperties := none } k := by
    cases k with
    | map k =>
      cases k with
      | properties => exact absurd rfl (hmap .named)
      | patternProperties => exact absurd rfl (hmap .pattern)
      | _ => rfl
    | required => exact absurd rfl hrequired
    | _ => rfl
  obtain ⟨hfacets, hparts⟩ := Schema.object.inj h
  rw [hblank facets parts, hblank facets' parts', hfacets, hparts]

theorem extra_eq_of_otherKeywords {facets facets' : Facets} {parts parts' : Parts Schema}
    (h : (Schema.object facets parts).otherKeywords
      = (Schema.object facets' parts').otherKeywords) : facets.extra = facets'.extra := by
  have hextra := congrArg Facets.extra (Schema.object.inj h).1
  exact hextra

namespace Schema

variable {schema result : Schema}

/-- The list of required names stays as it is if the names do. -/
theorem map_required?_eq_self_iff {f : List String → List String} (hnil : f [] = []) :
    schema.required?.map f = schema.required? ↔ f schema.requiredNames = schema.requiredNames := by
  rw [requiredNames]
  cases schema.required? <;> simp [hnil]

theorem filter_ne_eq_self_iff {ns : List String} {name : String} :
    ns.filter (· != name) = ns ↔ name ∉ ns := by
  rw [List.filter_eq_self]
  simp only [bne_iff_ne]
  exact ⟨fun h hname => h name hname rfl, fun h other hother heq => h (heq ▸ hother)⟩

/-- The entries of a map of properties are what the field of its keyword holds. -/
theorem field?_properties {facets : Facets} {parts : Parts Schema} {kind : PropertyKind}
    {members : Members Schema} (h : field? facets parts (.map kind.keyword) = some members) :
    (object facets parts).properties kind = members := by
  exact properties_of_propertyMap? h

theorem exists_field?_properties {facets : Facets} {parts : Parts Schema} {kind : PropertyKind} :
    (object facets parts).properties kind = [] ∨ field? facets parts (.map kind.keyword)
      = some ((object facets parts).properties kind) := by
  have hfield : field? facets parts (.map kind.keyword)
      = (object facets parts).propertyMap? kind := rfl
  rw [hfield, properties]
  cases (object facets parts).propertyMap? kind with
  | none => exact .inl rfl
  | some members => exact .inr rfl

theorem UniqueNames.nodup_properties (unique : schema.UniqueNames) (kind : PropertyKind) :
    (names (schema.properties kind)).Nodup := by
  cases unique with
  | boolean => exact List.nodup_nil
  | object hfacets _ =>
    rcases exists_field?_properties with hnil | hfield
    · rw [hnil]
      exact List.nodup_nil
    · exact hfacets.fields hfield

theorem UniqueNames.of_mem_properties (unique : schema.UniqueNames) {kind : PropertyKind}
    {entry : String × Schema} (h : entry ∈ schema.properties kind) : entry.2.UniqueNames := by
  cases unique with
  | boolean => cases h
  | object _ hparts =>
    rcases exists_field?_properties with hnil | hfield
    · rw [hnil] at h
      cases h
    · exact hparts _ ((mem_toList_iff _).mpr ⟨_, _, hfield, List.mem_map_of_mem h⟩)

/-- A schema repeats no name if its properties do not, and a schema with the same other keywords
does not. -/
theorem UniqueNames.of_views (unique : schema.UniqueNames)
    (other : result.otherKeywords = schema.otherKeywords)
    (nodup : ∀ kind, (names (result.properties kind)).Nodup)
    (below : ∀ kind, ∀ entry ∈ result.properties kind, entry.2.UniqueNames) :
    result.UniqueNames := by
  cases result with
  | boolean accepts => exact .boolean
  | object facets parts =>
    cases unique with
    | boolean => cases other
    | object hfacets hparts =>
      have hextra := extra_eq_of_otherKeywords other
      -- a field is one of the views, or it is that of the schema with unique names
      refine .object ⟨fun {k content} hfield => ?_, hextra ▸ hfacets.names, hextra ▸ hfacets.values⟩
        fun part hpart => ?_
      · obtain ⟨kind, rfl⟩ | rfl | ⟨hrequired, hmap⟩ := k.view_cases
        · have hnodup := nodup kind
          rw [field?_properties hfield] at hnodup
          cases kind <;> exact hnodup
        · trivial
        · rw [field?_eq_of_otherKeywords other hrequired hmap] at hfield
          exact hfacets.fields hfield
      · obtain ⟨k, content, hfield, hmem⟩ := (mem_toList_iff facets).mp hpart
        obtain ⟨kind, rfl⟩ | rfl | ⟨hrequired, hmap⟩ := k.view_cases
        · obtain ⟨entry, hentry, rfl⟩ := List.mem_map.mp hmem
          rw [← field?_properties hfield] at hentry
          exact below kind entry hentry
        · cases hmem
        · rw [field?_eq_of_otherKeywords other hrequired hmap] at hfield
          exact hparts part ((mem_toList_iff _).mpr ⟨k, content, hfield, hmem⟩)

/-- A schema is all that its views are. -/
theorem eq_of_views (other : schema.otherKeywords = result.otherKeywords)
    (required : schema.required? = result.required?)
    (maps : ∀ kind, schema.propertyMap? kind = result.propertyMap? kind) : schema = result := by
  cases schema with
  | boolean accepts =>
    cases result with
    | boolean _ => exact other
    | object _ _ => cases other
  | object facets parts =>
    cases result with
    | boolean _ => cases other
    | object facets' parts' =>
      -- a schema is its fields and the rest, and every field belongs to one of the views
      have hfields (k : Keyword) : field? facets parts k = field? facets' parts' k := by
        obtain ⟨kind, rfl⟩ | rfl | ⟨hrequired, hmap⟩ := k.view_cases
        · exact maps kind
        · exact required
        · exact field?_eq_of_otherKeywords other hrequired hmap
      obtain ⟨rfl, rfl⟩ := eq_of_fields hfields (extra_eq_of_otherKeywords other)
      rfl

/-! ### Equality by the views -/

theorem required?_eq_of_same (h : schema.same result = true) :
    schema.required? = result.required? := by
  cases schema with
  | boolean accepts =>
    cases result with
    | boolean _ => rfl
    | object _ _ => cases h
  | object facets parts =>
    obtain ⟨facets', parts', rfl, hfacets, -⟩ := same_object h
    exact Facets.same_required hfacets

theorem isSome_propertyMap?_of_same (h : schema.same result = true) (kind : PropertyKind) :
    (schema.propertyMap? kind).isSome = (result.propertyMap? kind).isSome := by
  cases schema with
  | boolean accepts =>
    cases result with
    | boolean _ => rfl
    | object _ _ => cases h
  | object facets parts =>
    obtain ⟨facets', parts', rfl, -, -⟩ := same_object h
    have hmap := (same_object_iff.mp h).1 (.map kind.keyword)
    show (parts.map? kind.keyword).isSome = (parts'.map? kind.keyword).isSome
    cases hown : parts.map? kind.keyword <;> cases hother : parts'.map? kind.keyword <;>
      simp_all [field?, relateOption]

/-- The maps of properties are equal if one is a permutation of the other. -/
theorem UniqueNames.relate_propertyMap? (unique : schema.UniqueNames)
    (unique' : result.UniqueNames) {kind : PropertyKind}
    (maps : (schema.propertyMap? kind).isSome = (result.propertyMap? kind).isSome)
    (perm : (schema.properties kind).Perm (result.properties kind)) :
    relateOption (Members.relate same) (schema.propertyMap? kind) (result.propertyMap? kind)
      = true := by
  have hnodup := unique'.nodup_properties kind
  have hsame : ∀ entry ∈ schema.properties kind, entry.2.same entry.2 = true :=
    fun entry hentry => (unique.of_mem_properties hentry).same_self
  simp only [properties] at hnodup hsame perm
  cases hown : schema.propertyMap? kind with
  | none =>
    rw [hown, Option.isSome_none, eq_comm, Option.isSome_eq_false_iff,
      Option.isNone_iff_eq_none] at maps
    rw [maps]
    rfl
  | some members =>
    rw [hown, Option.isSome_some, eq_comm, Option.isSome_iff_exists] at maps
    obtain ⟨others, hothers⟩ := maps
    rw [hown] at perm hsame
    rw [hothers] at perm hnodup ⊢
    exact Members.relate_of_perm perm hnodup hsame

/-- Schemas that differ only in the order of their properties are equal. -/
theorem UniqueNames.same_of_perm (unique : schema.UniqueNames) (unique' : result.UniqueNames)
    (other : schema.otherKeywords = result.otherKeywords)
    (required : schema.required? = result.required?)
    (maps : ∀ kind, (schema.propertyMap? kind).isSome = (result.propertyMap? kind).isSome)
    (perm : ∀ kind, (schema.properties kind).Perm (result.properties kind)) :
    schema.same result = true := by
  have hself := unique.same_self
  have hmaps := fun kind => unique.relate_propertyMap? unique' (maps kind) (perm kind)
  cases schema with
  | boolean accepts =>
    cases result with
    | boolean _ => cases other; exact hself
    | object _ _ => cases other
  | object facets parts =>
    cases result with
    | boolean _ => cases other
    | object facets' parts' =>
      -- field by field: the maps are equal up to order, all other fields are the same
      rw [same_object_iff] at hself ⊢
      refine ⟨fun k => ?_, ?_⟩
      · obtain ⟨kind, rfl⟩ | rfl | ⟨hrequired, hmap⟩ := k.view_cases
        · exact hmaps kind
        · have hfield : field? facets parts .required = field? facets' parts' .required := required
          rw [← hfield]
          exact hself.1 .required
        · rw [← field?_eq_of_otherKeywords other hrequired hmap]
          exact hself.1 k
      · rw [← extra_eq_of_otherKeywords other]
        exact hself.2

end Schema

end JsonShape
