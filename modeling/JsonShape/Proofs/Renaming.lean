import JsonShape.Proofs.IndependentEdits

/-!
# Renaming a property

A property is renamed in its place, and its name is replaced in the list of required names. The list
is rewritten whether or not the property is there, as long as the map is.

* **A property that is there** (`Schema.renameProperty_in_place`) — it keeps its place and its
  schema under a name not in use, and this can be undone exactly if the new name was not required
  before.
* **A name not in use** (`Schema.renameProperty_absent_iff`) — to rename it changes nothing exactly
  if it is not required.
-/

namespace JsonShape

open Members

/-! ### Lists of renamed names -/

theorem map_eq_self_iff {α : Type} {f : α → α} {as : List α} :
    as.map f = as ↔ ∀ a ∈ as, f a = a := by
  conv_lhs =>
    rhs
    rw [← List.map_id as]
  exact List.map_inj_left

namespace Schema

variable {schema : Schema} {kind : PropertyKind} {old new : String} {ns : List String}

theorem map_renamed_eq_self_iff : ns.map (renamed old new) = ns ↔ old = new ∨ old ∉ ns := by
  rw [map_eq_self_iff]
  constructor
  · intro h
    by_cases hold : old ∈ ns
    · -- the old name is renamed to itself only if it is the new one
      have hself := h old hold
      rw [renamed, if_pos rfl] at hself
      exact .inl hself.symm
    · exact .inr hold
  · rintro (rfl | hold) name hname
    · rw [renamed, ite_eq_right_iff]
      exact Eq.symm
    · rw [renamed, if_neg (ne_of_mem_of_not_mem hname hold)]

/-- Renaming back gives the names from before exactly if the new one was not among them. -/
theorem map_renamed_renamed_eq_self_iff (hne : old ≠ new) :
    (ns.map (renamed old new)).map (renamed new old) = ns ↔ new ∉ ns := by
  rw [List.map_map, map_eq_self_iff]
  constructor
  · intro h hnew
    -- the new name, if it was there, becomes the old one on the way back
    have hself := h new hnew
    simp only [Function.comp_apply, renamed, if_neg hne.symm, if_true] at hself
    exact hne hself
  · intro hnew name hname
    have hother : name ≠ new := ne_of_mem_of_not_mem hname hnew
    by_cases hold : name = old <;> simp [renamed, hold, hother]

end Schema

/-! ### Renaming to a name that is not in use -/

/-- An entry that gets a name not in use can be given its old name again. -/
theorem MapChange.apply_rename_rename {properties : Members Schema} {old new : String}
    (nodup : (names properties).Nodup) (hnew : new ∉ names properties) (hne : old ≠ new) :
    (rename new old).apply ((rename old new).apply properties) = properties := by
  rw [apply_rename (nodup_apply _ nodup) (notMem_names_apply_rename hne _),
    apply_rename nodup hnew, List.map_map, map_eq_self_iff]
  rintro ⟨name, property⟩ hentry
  have hother : name ≠ new := ne_of_mem_of_not_mem (mem_names_of_mem hentry) hnew
  by_cases hold : name = old <;> simp [Schema.renamed, hold, hother]

namespace Schema

variable {schema : Schema} {kind : PropertyKind} {old new : String}

theorem isSome_propertyMap?_renameProperty (schema : Schema) (kind : PropertyKind)
    (old new : String) : ((schema.renameProperty kind old new).propertyMap? kind).isSome
      = (schema.propertyMap? kind).isSome := by
  rw [propertyMap?_renameProperty, if_pos rfl, Option.isSome_map]

/-- Renaming back gives the schema from before exactly if the new name was not required in it. -/
theorem renameProperty_renameProperty_eq_self_iff (nodup : (names (schema.properties kind)).Nodup)
    (hold : old ∈ names (schema.properties kind)) (hnew : new ∉ names (schema.properties kind)) :
    (schema.renameProperty kind old new).renameProperty kind new old = schema ↔
      new ∉ schema.requiredNames := by
  have hne : old ≠ new := ne_of_mem_of_not_mem hold hnew
  have hmap := propertyMap?_of_mem hold
  have hrequired : ((schema.renameProperty kind old new).renameProperty kind new old).required?
      = schema.required? ↔ new ∉ schema.requiredNames := by
    rw [required?_renameProperty, isSome_propertyMap?_renameProperty, required?_renameProperty,
      hmap, Option.isSome_some, if_pos rfl, if_pos rfl, Option.map_map,
      map_required?_eq_self_iff rfl]
    exact map_renamed_renamed_eq_self_iff hne
  -- the required names decide: the other views come back in any case
  refine ⟨fun h => hrequired.mp (by rw [h]), fun h => ?_⟩
  refine eq_of_views ?_ (hrequired.mpr h) fun target => ?_
  · rw [otherKeywords_renameProperty, otherKeywords_renameProperty]
  · rw [propertyMap?_renameProperty, propertyMap?_renameProperty]
    by_cases htarget : target = kind
    · rw [htarget, hmap, if_pos rfl, if_pos rfl, Option.map_some, Option.map_some,
        MapChange.apply_rename_rename nodup hnew hne]
    · rw [if_neg htarget, if_neg htarget]

/-- A property that gets a name not in use keeps its place and its schema, as do all others. Among
the required names the new one replaces the old one, and nothing else changes. Renaming back gives
exactly the schema from before if the new name was not required in it, and only then. -/
theorem renameProperty_in_place (nodup : (names (schema.properties kind)).Nodup)
    (hold : old ∈ names (schema.properties kind)) (hnew : new ∉ names (schema.properties kind)) :
    (∃ before property after,
        schema.propertyMap? kind = some (before ++ (old, property) :: after)
          ∧ (schema.renameProperty kind old new).propertyMap? kind
            = some (before ++ (new, property) :: after))
      ∧ ((schema.renameProperty kind old new).properties kind).length
        = (schema.properties kind).length
      ∧ (schema.renameProperty kind old new).required?
        = schema.required?.map (·.map fun name => if name = old then new else name)
      ∧ (schema.renameProperty kind old new).propertyMap? kind.other
        = schema.propertyMap? kind.other
      ∧ (schema.renameProperty kind old new).otherKeywords = schema.otherKeywords
      ∧ ((schema.renameProperty kind old new).renameProperty kind new old = schema ↔
        new ∉ schema.requiredNames) := by
  have hmap := propertyMap?_of_mem hold
  have hback := renameProperty_renameProperty_eq_self_iff nodup hold hnew
  -- the map is split at the property, which is then replaced in its place
  obtain ⟨property, hproperty⟩ := exists_lookup hold
  obtain ⟨before, after, hsplit⟩ := List.append_of_mem (mem_of_lookup hproperty)
  have hrenamed : (schema.renameProperty kind old new).propertyMap? kind
      = some (before ++ (new, property) :: after) := by
    rw [hsplit] at nodup hnew hmap
    rw [propertyMap?_renameProperty, if_pos rfl, hmap, Option.map_some,
      MapChange.apply_rename_split nodup hnew]
  refine ⟨⟨before, property, after, hsplit ▸ hmap, hrenamed⟩, ?_, ?_, ?_,
    otherKeywords_renameProperty .., hback⟩
  · rw [properties, hrenamed, hsplit]
    simp
  · rw [required?_renameProperty, hmap]
    rfl
  · rw [propertyMap?_renameProperty, if_neg kind.other_ne]

/-- The first of the sample's properties, which is required, gets a new name and then its old one.
-/
theorem sampleSchema_renamed_back :
    (names (Edit.sampleSchema.properties .named)).Nodup
      ∧ "a" ∈ names (Edit.sampleSchema.properties .named)
      ∧ "d" ∉ names (Edit.sampleSchema.properties .named)
      ∧ (Edit.sampleSchema.renameProperty .named "a" "d").required? = some ["d", "c"]
      ∧ (Edit.sampleSchema.renameProperty .named "a" "d").renameProperty .named "d" "a"
        = Edit.sampleSchema := by
  have nodup := Edit.sampleSchema_nodup .named
  have hold : "a" ∈ names (Edit.sampleSchema.properties .named) := by decide
  have hnew : "d" ∉ names (Edit.sampleSchema.properties .named) := by decide
  obtain ⟨-, -, hrequired, -, -, hback⟩ := renameProperty_in_place nodup hold hnew
  exact ⟨nodup, hold, hnew, hrequired, hback.mpr (by decide)⟩

/-! ### Renaming a name that is not in use -/

theorem required?_renameProperty_eq_self_iff :
    (schema.renameProperty kind old new).required? = schema.required? ↔
      schema.propertyMap? kind = none ∨ old = new ∨ old ∉ schema.requiredNames := by
  rw [required?_renameProperty]
  cases schema.propertyMap? kind with
  | none => simp
  | some properties =>
    rw [Option.isSome_some, if_pos rfl, map_required?_eq_self_iff rfl, map_renamed_eq_self_iff]
    simp

theorem propertyMap?_renameProperty_of_notMem (nodup : (names (schema.properties kind)).Nodup)
    (habsent : old ∉ names (schema.properties kind)) (target : PropertyKind) :
    (schema.renameProperty kind old new).propertyMap? target = schema.propertyMap? target := by
  rw [propertyMap?_renameProperty]
  by_cases htarget : target = kind
  · subst htarget
    rw [if_pos rfl]
    cases hmap : schema.propertyMap? target with
    | none => rfl
    | some entries =>
      rw [properties_of_propertyMap? hmap] at habsent nodup
      rw [Option.map_some, MapChange.apply_rename_of_notMem nodup habsent]
  · rw [if_neg htarget]

/-- To rename a name that no property of the map has leaves the schema equal to what it was exactly
if there is no map, or the name is kept, or it is not required; the schema is then the same
altogether. In any case both maps and all other keywords stay as they are. -/
theorem renameProperty_absent_iff (unique : schema.UniqueNames)
    (habsent : old ∉ names (schema.properties kind)) :
    ((schema.renameProperty kind old new).same schema = true ↔
        schema.propertyMap? kind = none ∨ old = new ∨ old ∉ schema.requiredNames)
      ∧ ((schema.renameProperty kind old new).same schema = true →
        schema.renameProperty kind old new = schema)
      ∧ (∀ target, (schema.renameProperty kind old new).propertyMap? target
        = schema.propertyMap? target)
      ∧ (schema.renameProperty kind old new).otherKeywords = schema.otherKeywords := by
  have hmaps (target : PropertyKind) : (schema.renameProperty kind old new).propertyMap? target
      = schema.propertyMap? target :=
    propertyMap?_renameProperty_of_notMem (unique.nodup_properties kind) habsent target
  have hother := otherKeywords_renameProperty schema kind old new
  have hrequired : (schema.renameProperty kind old new).same schema = true →
      (schema.renameProperty kind old new).required? = schema.required? := required?_eq_of_same
  have hself (h : (schema.renameProperty kind old new).required? = schema.required?) :
      schema.renameProperty kind old new = schema := eq_of_views hother h hmaps
  -- only the required names can change, so equality is decided by them
  refine ⟨?_, fun h => hself (hrequired h), hmaps, hother⟩
  rw [← required?_renameProperty_eq_self_iff]
  refine ⟨hrequired, fun h => ?_⟩
  rw [hself h]
  exact unique.same_self

/-- A property that is not required has no pattern of its name. -/
theorem sampleSchema_renamed_absent :
    Edit.sampleSchema.UniqueNames
      ∧ "b" ∉ names (Edit.sampleSchema.properties .pattern)
      ∧ Edit.sampleSchema.renameProperty .pattern "b" "d" = Edit.sampleSchema := by
  have habsent : "b" ∉ names (Edit.sampleSchema.properties .pattern) := by decide
  obtain ⟨hiff, hself, -, -⟩ := renameProperty_absent_iff Edit.sampleSchema_unique habsent
  exact ⟨Edit.sampleSchema_unique, habsent, hself (hiff.mpr (.inr (.inr (by decide))))⟩

/-- One property, and a required name that stands for none. -/
def undeclaredRequired : Schema :=
  .object { Facets.typed .object with required := some ["a"] }
    { properties := some [("b", .empty)] }

/-- The name is replaced among the required ones, although no property has it. -/
theorem undeclaredRequired_renamed :
    "a" ∉ names (undeclaredRequired.properties .named)
      ∧ (undeclaredRequired.renameProperty .named "a" "c").requiredNames = ["c"]
      ∧ (undeclaredRequired.renameProperty .named "a" "c").same undeclaredRequired = false := by
  refine ⟨by decide, by decide, rfl⟩

end Schema

end JsonShape
