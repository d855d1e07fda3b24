import JsonShape.Proofs.IndependentEdits

/-!
# Moving a property between the maps

A toggle takes a property out of its map and puts it at the end of the other one, which it creates
if there is none. On the way the name is taken out of the required ones, and a move back does not
bring it in again.

Main statement: `Schema.toggleProperty_there_and_back` says what a move does, what a move back makes
of it, and when the two of them leave a schema that is equal to the one from before.
-/

namespace JsonShape

open Members

theorem PropertyKind.eq_or_eq_other (kind target : PropertyKind) :
    target = kind ∨ target = kind.other := by
  cases kind <;> cases target <;> simp [PropertyKind.other]

namespace Schema

variable {schema : Schema} {kind : PropertyKind} {name : String} {property : Schema}

/-- A property that is moved leaves its place and goes to the end of the other map. -/
theorem propertyMap?_toggleProperty_of_split {before after : Members Schema}
    (hmap : schema.propertyMap? kind = some (before ++ (name, property) :: after))
    (nodup : (names (before ++ (name, property) :: after)).Nodup)
    (hnew : name ∉ names (schema.properties kind.other)) :
    (schema.toggleProperty kind name).propertyMap? kind = some (before ++ after)
      ∧ (schema.toggleProperty kind name).propertyMap? kind.other
        = some (schema.properties kind.other ++ [(name, property)])
      ∧ (schema.toggleProperty kind name).required?
        = schema.required?.map (·.filter (· != name)) := by
  have hproperty : (schema.properties kind).lookup name = some property := by
    rw [properties_of_propertyMap? hmap]
    exact lookup_of_mem nodup (List.mem_append_right _ List.mem_cons_self)
  refine ⟨?_, ?_, required?_toggleProperty hproperty⟩
  · rw [propertyMap?_toggleProperty hproperty, if_pos rfl, hmap, Option.map_some,
      erase_split nodup]
  · rw [propertyMap?_toggleProperty hproperty, if_neg kind.other_ne, insert_of_notMem hnew]

theorem UniqueNames.toggleProperty (unique : schema.UniqueNames) (kind : PropertyKind)
    (name : String) : (schema.toggleProperty kind name).UniqueNames := by
  have hedit : (Edit.toggle kind name).OfProperties := trivial
  exact Edit.uniqueNames_apply hedit unique (by simp [Edit.given])

/-- A property that is moved and moved back stands at the end of its map. -/
theorem propertyMap?_toggleProperty_toggleProperty {before after : Members Schema}
    (hmap : schema.propertyMap? kind = some (before ++ (name, property) :: after))
    (nodup : ∀ target, (names (schema.properties target)).Nodup)
    (hnew : name ∉ names (schema.properties kind.other)) :
    ((schema.toggleProperty kind name).toggleProperty kind.other name).propertyMap? kind
        = some (before ++ after ++ [(name, property)])
      ∧ ((schema.toggleProperty kind name).toggleProperty kind.other name).propertyMap? kind.other
        = some (schema.properties kind.other)
      ∧ ((schema.toggleProperty kind name).toggleProperty kind.other name).required?
        = schema.required?.map (·.filter (· != name)) := by
  have hown := nodup kind
  rw [properties_of_propertyMap? hmap] at hown
  obtain ⟨hleft, hmoved, hrequired⟩ := propertyMap?_toggleProperty_of_split hmap hown hnew
  have hleft' := properties_of_propertyMap? hleft
  have hgone : name ∉ names ((schema.toggleProperty kind name).properties kind.other.other) := by
    obtain ⟨hbefore, hafter⟩ := notMem_of_nodup_split hown
    rw [PropertyKind.other_other, hleft', names_append, List.mem_append]
    exact not_or.mpr ⟨hbefore, hafter⟩
  have hother : (names (schema.properties kind.other ++ [(name, property)])).Nodup := by
    rw [← insert_of_notMem hnew]
    exact nodup_insert (nodup kind.other) name property
  -- the property is the last of the other map, so that what is left there is what was there
  obtain ⟨hback, hend, hagain⟩ := propertyMap?_toggleProperty_of_split hmoved hother hgone
  rw [PropertyKind.other_other, hleft'] at hend
  rw [List.append_nil] at hback
  refine ⟨hend, hback, ?_⟩
  rw [hagain, hrequired, Option.map_map]
  congr 1
  funext ns
  simp

/-- A property whose name is not in use in the other map is moved there: it leaves its place among
the others, goes to the end of the other map, be it a new one, and is no longer required; nothing
else changes. Moved back, it stands at the end of its own map, is still not required, and the other
map is there, with what it had before. All this leaves an equal schema exactly if the other map was
there before and the property was not required. -/
theorem toggleProperty_there_and_back (unique : schema.UniqueNames)
    (hproperty : (schema.properties kind).lookup name = some property)
    (hnew : name ∉ names (schema.properties kind.other)) :
    (∃ before after, schema.propertyMap? kind = some (before ++ (name, property) :: after)
        ∧ (schema.toggleProperty kind name).propertyMap? kind = some (before ++ after)
        ∧ ((schema.toggleProperty kind name).toggleProperty kind.other name).propertyMap? kind
          = some (before ++ after ++ [(name, property)]))
      ∧ ((schema.toggleProperty kind name).propertyMap? kind.other
          = some (schema.properties kind.other ++ [(name, property)])
        ∧ (schema.toggleProperty kind name).required?
          = schema.required?.map (·.filter (· != name))
        ∧ (schema.toggleProperty kind name).otherKeywords = schema.otherKeywords)
      ∧ (((schema.toggleProperty kind name).toggleProperty kind.other name).propertyMap? kind.other
          = some (schema.properties kind.other)
        ∧ ((schema.toggleProperty kind name).toggleProperty kind.other name).required?
          = schema.required?.map (·.filter (· != name))
        ∧ ((schema.toggleProperty kind name).toggleProperty kind.other name).otherKeywords
          = schema.otherKeywords)
      ∧ (((schema.toggleProperty kind name).toggleProperty kind.other name).same schema = true ↔
        (schema.propertyMap? kind.other).isSome = true ∧ name ∉ schema.requiredNames) := by
  obtain ⟨before, after, hsplit⟩ := List.append_of_mem (mem_of_lookup hproperty)
  have hmap := propertyMap?_of_mem (mem_names_of_mem (mem_of_lookup hproperty))
  have hown := unique.nodup_properties kind
  rw [hsplit] at hmap hown
  obtain ⟨hleft, hmoved, hrequired⟩ := propertyMap?_toggleProperty_of_split hmap hown hnew
  obtain ⟨hend, hback, hagain⟩ :=
    propertyMap?_toggleProperty_toggleProperty hmap unique.nodup_properties hnew
  have hkeywords := otherKeywords_toggleProperty schema kind name
  have hkeywords' := (otherKeywords_toggleProperty (schema.toggleProperty kind name) kind.other
    name).trans hkeywords
  refine ⟨⟨before, after, hmap, hleft, hend⟩, ⟨hmoved, hrequired, hkeywords⟩,
    ⟨hback, hagain, hkeywords'⟩, ?_, ?_⟩
  · intro hsame
    have hpresent := isSome_propertyMap?_of_same hsame kind.other
    have hlist := required?_eq_of_same hsame
    rw [hback, Option.isSome_some] at hpresent
    rw [hagain, map_required?_eq_self_iff rfl, filter_ne_eq_self_iff] at hlist
    exact ⟨hpresent.symm, hlist⟩
  · rintro ⟨hpresent, hlist⟩
    have unique' := (unique.toggleProperty kind name).toggleProperty kind.other name
    refine unique'.same_of_perm unique hkeywords' ?_ (fun target => ?_) fun target => ?_
    · rw [hagain, map_required?_eq_self_iff rfl, filter_ne_eq_self_iff]
      exact hlist
    · obtain rfl | rfl := kind.eq_or_eq_other target
      · rw [hend, hmap, Option.isSome_some, Option.isSome_some]
      · rw [hback, hpresent, Option.isSome_some]
    · obtain rfl | rfl := kind.eq_or_eq_other target
      · rw [properties_of_propertyMap? hend, hsplit, List.append_assoc]
        exact (List.perm_append_singleton _ after).append_left before
      · rw [properties_of_propertyMap? hback]

/-- The second of the sample's properties becomes a pattern and is made a property again: it then
stands last, which makes no difference. -/
theorem sampleSchema_moved_back :
    Edit.sampleSchema.UniqueNames
      ∧ (Edit.sampleSchema.properties .named).lookup "b" = some (.typed .string)
      ∧ "b" ∉ names (Edit.sampleSchema.properties .pattern)
      ∧ ((Edit.sampleSchema.toggleProperty .named "b").toggleProperty .pattern "b").same
        Edit.sampleSchema = true := by
  have hproperty : (Edit.sampleSchema.properties .named).lookup "b" = some (.typed .string) := rfl
  have hnew : "b" ∉ names (Edit.sampleSchema.properties .pattern) := by decide
  obtain ⟨-, -, -, hiff⟩ :=
    toggleProperty_there_and_back Edit.sampleSchema_unique hproperty hnew
  exact ⟨Edit.sampleSchema_unique, hproperty, hnew, hiff.mpr ⟨rfl, by decide⟩⟩

end Schema

end JsonShape
