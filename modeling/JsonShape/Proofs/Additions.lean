import JsonShape.Proofs.IndependentEdits

/-!
# Adding a property and removing it again

A new property goes to the end of its map, which is created if there is none, so to remove it again
leaves the entries as they were. What is not undone is the creation of the map; and the removal
takes the name out of the required ones even if it was there before the property.

Main statement: `Schema.removeProperty_insertProperty` says what is left of an addition, and when
nothing is.
-/

namespace JsonShape

open Members

theorem Members.erase_insert {α : Type} {members : Members α} {name : String}
    (h : name ∉ names members) (value : α) : erase (insert members name value) name = members := by
  -- a new entry stands at the end, so what is left are the entries before it
  rw [insert_of_notMem h, erase, List.filter_append, List.filter_cons_of_neg (by simp),
    List.filter_nil, List.append_nil]
  exact erase_of_notMem h

namespace Schema

variable {schema : Schema} {kind : PropertyKind} {name : String}

theorem propertyMap?_removeProperty_insertProperty (hobject : schema.facets?.isSome = true)
    (hnew : name ∉ names (schema.properties kind)) (property : Schema) (target : PropertyKind) :
    ((schema.insertProperty kind name property).removeProperty kind name).propertyMap? target
      = if target = kind then some (schema.properties kind) else schema.propertyMap? target := by
  rw [propertyMap?_removeProperty, propertyMap?_insertProperty schema kind target hobject]
  by_cases htarget : target = kind
  · rw [htarget, if_pos rfl, if_pos rfl, if_pos rfl, Option.map_some, erase_insert hnew]
  · rw [if_neg htarget, if_neg htarget, if_neg htarget]

/-- The name is not required afterwards, whether or not it was before. -/
theorem required?_removeProperty_insertProperty (hobject : schema.facets?.isSome = true)
    (kind : PropertyKind) (name : String) (property : Schema) :
    ((schema.insertProperty kind name property).removeProperty kind name).required?
      = schema.required?.map (·.filter (· != name)) := by
  rw [required?_removeProperty, propertyMap?_insertProperty schema kind kind hobject, if_pos rfl,
    Option.isSome_some, if_pos rfl, required?_insertProperty]

theorem otherKeywords_removeProperty_insertProperty (schema : Schema) (kind : PropertyKind)
    (name : String) (property : Schema) :
    ((schema.insertProperty kind name property).removeProperty kind name).otherKeywords
      = schema.otherKeywords := by
  rw [otherKeywords_removeProperty, otherKeywords_insertProperty]

/-- Where there is a map, and the name is not required, all is as it was. -/
theorem removeProperty_insertProperty_eq_self (hobject : schema.facets?.isSome = true)
    (hnew : name ∉ names (schema.properties kind)) (property : Schema)
    (hpresent : (schema.propertyMap? kind).isSome = true) (hlist : name ∉ schema.requiredNames) :
    (schema.insertProperty kind name property).removeProperty kind name = schema := by
  obtain ⟨entries, hentries⟩ := Option.isSome_iff_exists.mp hpresent
  -- a schema is what its views are, and each of them is back to what it was
  refine eq_of_views (otherKeywords_removeProperty_insertProperty ..) ?_ fun target => ?_
  · rw [required?_removeProperty_insertProperty hobject, map_required?_eq_self_iff rfl,
      filter_ne_eq_self_iff]
    exact hlist
  · rw [propertyMap?_removeProperty_insertProperty hobject hnew]
    by_cases htarget : target = kind
    · rw [htarget, if_pos rfl, properties_of_propertyMap? hentries, hentries]
    · rw [if_neg htarget]

/-- Otherwise there is a difference. -/
theorem isSome_and_notMem_of_same_added (hobject : schema.facets?.isSome = true)
    (hnew : name ∉ names (schema.properties kind)) (property : Schema)
    (hsame : ((schema.insertProperty kind name property).removeProperty kind name).same schema
      = true) : (schema.propertyMap? kind).isSome = true ∧ name ∉ schema.requiredNames := by
  -- equality compares the map and the required names; each gives one of the two conditions
  have hpresent := isSome_propertyMap?_of_same hsame kind
  have hlist := required?_eq_of_same hsame
  rw [propertyMap?_removeProperty_insertProperty hobject hnew, if_pos rfl,
    Option.isSome_some] at hpresent
  rw [required?_removeProperty_insertProperty hobject, map_required?_eq_self_iff rfl,
    filter_ne_eq_self_iff] at hlist
  exact ⟨hpresent.symm, hlist⟩

/-- To add a property under a name that is not in use and remove it again leaves the entries of both
maps as they were. The map is there afterwards, the name is not required, and nothing else differs.
The schema is equal to what it was exactly if it had the map and did not require the name; it is
then the same altogether. -/
theorem removeProperty_insertProperty (unique : schema.UniqueNames)
    (hobject : schema.facets?.isSome = true) (hnew : name ∉ names (schema.properties kind))
    (property : Schema) :
    (∀ target, ((schema.insertProperty kind name property).removeProperty kind name).properties
        target = schema.properties target)
      ∧ (((schema.insertProperty kind name property).removeProperty kind name).same schema = true ↔
        (schema.propertyMap? kind).isSome = true ∧ name ∉ schema.requiredNames)
      ∧ (((schema.insertProperty kind name property).removeProperty kind name).same schema = true →
        (schema.insertProperty kind name property).removeProperty kind name = schema)
      ∧ (((schema.insertProperty kind name property).removeProperty kind name).propertyMap? kind
          = some (schema.properties kind)
        ∧ ((schema.insertProperty kind name property).removeProperty kind name).propertyMap?
          kind.other = schema.propertyMap? kind.other
        ∧ ((schema.insertProperty kind name property).removeProperty kind name).required?
          = schema.required?.map (·.filter (· != name))
        ∧ ((schema.insertProperty kind name property).removeProperty kind name).otherKeywords
          = schema.otherKeywords) := by
  have hmaps := propertyMap?_removeProperty_insertProperty hobject hnew property
  have hrequired := required?_removeProperty_insertProperty hobject kind name property
  have hself := removeProperty_insertProperty_eq_self hobject hnew property
  have hdiffers := isSome_and_notMem_of_same_added hobject hnew property
  refine ⟨fun target => ?_, ⟨hdiffers, fun h => ?_⟩, fun h => ?_, ?_, ?_, hrequired,
    otherKeywords_removeProperty_insertProperty ..⟩
  · rw [properties, hmaps]
    by_cases htarget : target = kind
    · rw [htarget, if_pos rfl, Option.getD_some]
    · rw [if_neg htarget, properties]
  · rw [hself h.1 h.2]
    exact unique.same_self
  · exact hself (hdiffers h).1 (hdiffers h).2
  · rw [hmaps, if_pos rfl]
  · rw [hmaps, if_neg kind.other_ne]

/-- A pattern that is spelled like a required property is added and removed: the property is no
longer required. -/
theorem sampleSchema_pattern_added :
    Edit.sampleSchema.UniqueNames
      ∧ Edit.sampleSchema.facets?.isSome = true
      ∧ "a" ∉ names (Edit.sampleSchema.properties .pattern)
      ∧ ((Edit.sampleSchema.insertProperty .pattern "a" empty).removeProperty .pattern
          "a").required? = some ["c"]
      ∧ ((Edit.sampleSchema.insertProperty .pattern "a" empty).removeProperty .pattern "a").same
          Edit.sampleSchema = false := by
  have hnew : "a" ∉ names (Edit.sampleSchema.properties .pattern) := by decide
  obtain ⟨-, hiff, -, -, -, hrequired, -⟩ :=
    removeProperty_insertProperty Edit.sampleSchema_unique rfl hnew empty
  refine ⟨Edit.sampleSchema_unique, rfl, hnew, hrequired, ?_⟩
  rw [Bool.eq_false_iff, ne_eq, hiff]
  exact fun h => h.2 (by decide)

end Schema

end JsonShape
