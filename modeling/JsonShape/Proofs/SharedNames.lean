import JsonShape.Proofs.Renaming

/-!
# Patterns and required names

There is one list of required names for both maps. An edit of the patterns leaves the other
properties as they are, but takes its names with it in that list: where a pattern is spelled like a
required property, that property is listed differently afterwards.

Main statement: `Schema.propertyList_edited_patterns` says how the properties are listed after a
pattern is removed or renamed.
-/

namespace JsonShape

open Members

namespace Schema

variable {schema result : Schema} {kind target : PropertyKind} {name other old new : String}

/-! ### What is listed -/

/-- Two schemas with the same properties list them alike if the same of them are required. -/
theorem propertyList_eq_iff (h : result.properties kind = schema.properties kind) :
    result.propertyList kind = schema.propertyList kind ↔
      ∀ name ∈ names (schema.properties kind),
        (name ∈ result.requiredNames ↔ name ∈ schema.requiredNames) := by
  -- the lists go along the same entries, so only the flags can differ
  have hlist (schema : Schema) : schema.propertyList kind = (schema.properties kind).map
      fun entry => ⟨entry.1, entry.2, schema.isRequired entry.1⟩ := rfl
  rw [hlist, hlist, h, List.map_inj_left]
  simp only [names, List.forall_mem_map, ← isRequired_iff, ← Bool.eq_iff_iff]
  simp

theorem propertyList_eq_of_required? (hproperties : result.properties kind = schema.properties kind)
    (hrequired : result.required? = schema.required?) :
    result.propertyList kind = schema.propertyList kind := by
  rw [propertyList_eq_iff hproperties, requiredNames, requiredNames, hrequired]
  exact fun name _ => Iff.rfl

/-! ### The required names after an edit -/

theorem required?_removeProperty_eq_self_iff :
    (schema.removeProperty kind name).required? = schema.required? ↔
      schema.propertyMap? kind = none ∨ name ∉ schema.requiredNames := by
  rw [required?_removeProperty]
  cases schema.propertyMap? kind with
  | none => simp
  | some properties =>
    rw [Option.isSome_some, if_pos rfl, map_required?_eq_self_iff rfl, filter_ne_eq_self_iff]
    simp

theorem mem_requiredNames_removeProperty (h : (schema.propertyMap? kind).isSome = true) :
    other ∈ (schema.removeProperty kind name).requiredNames ↔
      other ∈ schema.requiredNames ∧ other ≠ name := by
  rw [requiredNames, required?_removeProperty, if_pos h, requiredNames]
  cases schema.required? <;> simp

theorem mem_requiredNames_renameProperty (h : (schema.propertyMap? kind).isSome = true) :
    other ∈ (schema.renameProperty kind old new).requiredNames ↔
      (other = new ∧ old ∈ schema.requiredNames)
        ∨ (other ∈ schema.requiredNames ∧ other ≠ old) := by
  rw [requiredNames, required?_renameProperty, if_pos h, requiredNames]
  cases schema.required? with
  | none => simp
  | some ns =>
    simp only [Option.map_some, Option.getD_some, List.mem_map, renamed]
    grind

theorem isRequired_removeProperty_of_ne (h : other ≠ name) :
    (schema.removeProperty kind name).isRequired other = schema.isRequired other := by
  -- that an edit touches only its names holds of all edits of properties
  have hedit : (Edit.remove kind name).OfProperties := trivial
  exact Edit.isRequired_apply hedit (by simpa [Edit.mentions] using h)

theorem isRequired_renameProperty_of_ne (hold : other ≠ old) (hnew : other ≠ new) :
    (schema.renameProperty kind old new).isRequired other = schema.isRequired other := by
  have hedit : (Edit.rename kind old new).OfProperties := trivial
  exact Edit.isRequired_apply hedit (by simpa [Edit.mentions] using ⟨hold, hnew⟩)

theorem isRequired_removeProperty_self (h : (schema.propertyMap? kind).isSome = true) :
    (schema.removeProperty kind name).isRequired name = false := by
  rw [← Bool.not_eq_true, isRequired_iff, mem_requiredNames_removeProperty h]
  exact fun hboth => hboth.2 rfl

theorem isRequired_renameProperty_old (h : (schema.propertyMap? kind).isSome = true)
    (hne : old ≠ new) : (schema.renameProperty kind old new).isRequired old = false := by
  rw [← Bool.not_eq_true, isRequired_iff, mem_requiredNames_renameProperty h]
  rintro (⟨heq, -⟩ | ⟨-, hself⟩)
  · exact hne heq
  · exact hself rfl

theorem isRequired_renameProperty_new (h : (schema.propertyMap? kind).isSome = true)
    (hne : old ≠ new) : (schema.renameProperty kind old new).isRequired new
      = (schema.isRequired old || schema.isRequired new) := by
  rw [Bool.eq_iff_iff, Bool.or_eq_true, isRequired_iff, isRequired_iff, isRequired_iff,
    mem_requiredNames_renameProperty h]
  simp [hne.symm]

/-! ### The list of the other map -/

theorem properties_removeProperty_of_ne (h : target ≠ kind) :
    (schema.removeProperty kind name).properties target = schema.properties target := by
  rw [properties, propertyMap?_removeProperty, if_neg h]
  rfl

theorem properties_renameProperty_of_ne (h : target ≠ kind) :
    (schema.renameProperty kind old new).properties target = schema.properties target := by
  rw [properties, propertyMap?_renameProperty, if_neg h]
  rfl

/-- To remove a property from one map changes the list of the other one if a required property there
has its name. -/
theorem propertyList_removeProperty_eq_iff (htarget : target ≠ kind)
    (h : (schema.propertyMap? kind).isSome = true) :
    (schema.removeProperty kind name).propertyList target = schema.propertyList target ↔
      name ∉ schema.requiredNames ∨ name ∉ names (schema.properties target) := by
  rw [propertyList_eq_iff (properties_removeProperty_of_ne htarget)]
  simp only [mem_requiredNames_removeProperty h]
  constructor
  · intro hall
    -- the property with the removed name would be required before and not after
    by_contra hboth
    rw [not_or, not_not, not_not] at hboth
    exact ((hall name hboth.2).mpr hboth.1).2 rfl
  · intro hname other hother
    refine and_iff_left_of_imp fun hrequired heq => ?_
    subst heq
    exact hname.elim (· hrequired) (· hother)

/-- To rename a property in one map changes the list of the other one if the old name is required
and a property there has it, or has the new name without being required. -/
theorem propertyList_renameProperty_eq_iff (htarget : target ≠ kind)
    (h : (schema.propertyMap? kind).isSome = true) (hne : old ≠ new) :
    (schema.renameProperty kind old new).propertyList target = schema.propertyList target ↔
      old ∉ schema.requiredNames ∨ (old ∉ names (schema.properties target)
        ∧ (new ∈ names (schema.properties target) → new ∈ schema.requiredNames)) := by
  rw [propertyList_eq_iff (properties_renameProperty_of_ne htarget)]
  simp only [mem_requiredNames_renameProperty h]
  constructor
  · intro hall
    by_cases hrequired : old ∈ schema.requiredNames
    · -- the old name is not required any more, and the new one is: neither may be seen to change
      refine .inr ⟨fun hold => ?_, fun hnew => (hall new hnew).mp (.inl ⟨rfl, hrequired⟩)⟩
      rcases (hall old hold).mpr hrequired with ⟨heq, -⟩ | ⟨-, hself⟩
      · exact hne heq
      · exact hself rfl
    · exact .inl hrequired
  · grind

/-- After an edit of the patterns the properties are listed with the same names and schemas in the
same order, and all but those with the edited names are required if they were before. Without
patterns, or if the old name is not required, the list is the one from before. A required name that
belongs to a pattern goes with it: it is not required after the pattern is removed, and the new name
is required in its stead after the pattern is renamed. Exactly if a property has the name, or one
that was not required has the new name, the list is then a different one. -/
theorem propertyList_edited_patterns (schema : Schema) (old new : String) :
    ((schema.removeProperty .pattern old).properties .named = schema.properties .named
        ∧ (∀ other, other ≠ old →
          (schema.removeProperty .pattern old).isRequired other = schema.isRequired other)
        ∧ (schema.propertyMap? .pattern = none ∨ old ∉ schema.requiredNames →
          (schema.removeProperty .pattern old).propertyList .named = schema.propertyList .named)
        ∧ (old ∈ names (schema.properties .pattern) →
          (schema.removeProperty .pattern old).isRequired old = false
            ∧ ((schema.removeProperty .pattern old).propertyList .named
                = schema.propertyList .named ↔
              old ∉ schema.requiredNames ∨ old ∉ names (schema.properties .named))))
      ∧ ((schema.renameProperty .pattern old new).properties .named = schema.properties .named
        ∧ (∀ other, other ≠ old → other ≠ new →
          (schema.renameProperty .pattern old new).isRequired other = schema.isRequired other)
        ∧ (schema.propertyMap? .pattern = none ∨ old = new ∨ old ∉ schema.requiredNames →
          (schema.renameProperty .pattern old new).propertyList .named = schema.propertyList .named)
        ∧ (old ∈ names (schema.properties .pattern) → old ≠ new →
          (schema.renameProperty .pattern old new).isRequired old = false
            ∧ (schema.renameProperty .pattern old new).isRequired new
              = (schema.isRequired old || schema.isRequired new)
            ∧ ((schema.renameProperty .pattern old new).propertyList .named
                = schema.propertyList .named ↔
              old ∉ schema.requiredNames ∨ (old ∉ names (schema.properties .named)
                ∧ (new ∈ names (schema.properties .named) → new ∈ schema.requiredNames))))) := by
  have htarget : PropertyKind.named ≠ .pattern := by decide
  have hsome (h : old ∈ names (schema.properties .pattern)) :
      (schema.propertyMap? .pattern).isSome = true := by
    rw [propertyMap?_of_mem h, Option.isSome_some]
  refine ⟨⟨properties_removeProperty_of_ne htarget, fun other => isRequired_removeProperty_of_ne,
    fun h => ?_, fun h => ⟨?_, ?_⟩⟩, properties_renameProperty_of_ne htarget,
    fun other => isRequired_renameProperty_of_ne, fun h => ?_, fun h hne => ⟨?_, ?_, ?_⟩⟩
  · exact propertyList_eq_of_required? (properties_removeProperty_of_ne htarget)
      (required?_removeProperty_eq_self_iff.mpr h)
  · exact isRequired_removeProperty_self (hsome h)
  · exact propertyList_removeProperty_eq_iff htarget (hsome h)
  · exact propertyList_eq_of_required? (properties_renameProperty_of_ne htarget)
      (required?_renameProperty_eq_self_iff.mpr h)
  · exact isRequired_renameProperty_old (hsome h) hne
  · exact isRequired_renameProperty_new (hsome h) hne
  · exact propertyList_renameProperty_eq_iff htarget (hsome h) hne

/-- Two properties, and a pattern that is spelled like the one of them that is required. -/
def sharedName : Schema :=
  .object { Facets.typed .object with required := some ["a"] }
    { properties := some [("a", .empty), ("b", .empty)]
      patternProperties := some [("a", .empty)] }

/-- With the pattern the requirement goes over to the other property. -/
theorem sharedName_pattern_renamed :
    "a" ∈ names (sharedName.properties .pattern) ∧ "a" ≠ "b"
      ∧ (sharedName.renameProperty .pattern "a" "b").isRequired "a" = false
      ∧ (sharedName.renameProperty .pattern "a" "b").isRequired "b" = true := by
  have hold : "a" ∈ names (sharedName.properties .pattern) := by decide
  have hne : "a" ≠ "b" := by decide
  obtain ⟨-, -, -, -, hpattern⟩ := propertyList_edited_patterns sharedName "a" "b"
  obtain ⟨hremoved, hadded, -⟩ := hpattern hold hne
  exact ⟨hold, hne, hremoved, hadded⟩

/-- To remove the pattern or to rename it changes what is listed of the properties. -/
theorem sharedName_listed_differently :
    (sharedName.removeProperty .pattern "a").propertyList .named ≠ sharedName.propertyList .named
      ∧ (sharedName.renameProperty .pattern "a" "c").propertyList .named
        ≠ sharedName.propertyList .named := by
  constructor
  · intro h
    have hflags := congrArg (List.map Property.required) h
    exact absurd hflags (by decide)
  · intro h
    have hflags := congrArg (List.map Property.required) h
    exact absurd hflags (by decide)

end Schema

end JsonShape
