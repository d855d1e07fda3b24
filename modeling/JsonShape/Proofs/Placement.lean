import JsonShape.Proofs.DocumentEquality

/-!
# Where the keywords of an object go

What fits the field of a keyword is said by a table of its own (`Keyword.fits`), next to the fields
that are read. By that table, every member of a loaded object is in one place: a keyword whose value
fits is in its field, a keyword whose value does not is kept as it is, and so is a name that is no
keyword.

Main statement: `Schema.ofJson_partitioned`, this holds of a loaded object and, with the values they
were loaded from, of all schemas in its fields.
-/

namespace JsonShape

open Members

/-- The values in the value of a keyword that stand for its sub-schemas, in order. -/
def Keyword.subvalues : Keyword → Json → List Json
  | map _, .object members => values members
  | list _, .array values => values
  | single _, value => [value]
  | items, .array values => values
  | items, value => [value]
  | _, _ => []

theorem Keyword.within_of_mem_subvalues {k : Keyword} {found value : Json}
    (h : found ∈ k.subvalues value) : found.Within value := by
  cases k with
  | map k =>
    cases value with
    | object members =>
      obtain ⟨member, hmember, rfl⟩ := List.mem_map.mp h
      exact .member hmember .self
    | _ => cases h
  | list k =>
    cases value with
    | array values => exact .element h .self
    | _ => cases h
  | single k =>
    obtain rfl := List.mem_singleton.mp h
    exact .self
  | items =>
    cases value with
    | array values => exact .element h .self
    | _ =>
      obtain rfl := List.mem_singleton.mp h
      exact .self
  | _ => cases h

namespace Schema

theorem forall₂_of_listOf? {values : List Json} {schemas : List Schema}
    (h : listOf? values = some schemas) :
    List.Forall₂ (fun value schema => ofJson? value = some schema) values schemas := by
  rw [listOf?_eq_some, ← List.forall₂_eq_eq_eq, List.forall₂_map_left_iff,
    List.forall₂_map_right_iff] at h
  exact h

theorem forall₂_of_mapOf? {members : Members Json} {schemas : Members Schema}
    (h : mapOf? members = some schemas) :
    List.Forall₂ (fun value schema => ofJson? value = some schema) (values members)
      (values schemas) := by
  have hmaps := congrArg values (mapOf?_eq_some.mp h)
  have hvalues {α β : Type} (f : α → β) (members : Members α) :
      values (Parts.mapMembers f members) = (values members).map f := by
    simp [values, Parts.mapMembers]
  rw [hvalues, hvalues, ← List.forall₂_eq_eq_eq, List.forall₂_map_left_iff,
    List.forall₂_map_right_iff] at hmaps
  exact hmaps

end Schema

/-- The schemas in a field are those of the values that stand for them. -/
theorem Content.forall₂_subvalues {k : Keyword} {value : Json} {content : Content Schema k}
    (h : ofJson? k value = some content) :
    List.Forall₂ (fun found part => Schema.ofJson? found = some part) (k.subvalues value)
      content.toList := by
  cases k with
  | map k =>
    cases value with
    | object members => exact Schema.forall₂_of_mapOf? h
    | _ => cases h
  | list k =>
    cases value with
    | array values => exact Schema.forall₂_of_listOf? h
    | _ => cases h
  | single k => exact .cons h .nil
  | items =>
    obtain ⟨values, schemas, rfl, rfl, hschemas⟩ | ⟨schema, rfl, hschema⟩ := items_cases h
    · exact Schema.forall₂_of_listOf? hschemas
    · have hvalue : Keyword.items.subvalues value = [value] := by
        cases value with
        | array values => simp only [Schema.ofJson?, reduceCtorEq] at hschema
        | _ => rfl
      rw [hvalue]
      exact .cons hschema .nil
  | _ => exact .nil

/-! ### One object -/

/-- The place of a keyword in a schema, given what stands under it in the object. -/
inductive Placed (facets : Facets) (parts : Parts Schema) (k : Keyword) : Option Json → Prop
  | absent : field? facets parts k = none → k.name ∉ names facets.extra →
      facets.isMisfit k = false → Placed facets parts k none
  | inField {value} {content : Content Schema k} : k.fits value = true →
      field? facets parts k = some content →
      (content.map Schema.toJson).toJson.same value = true → k.name ∉ names facets.extra →
      facets.isMisfit k = false → Placed facets parts k (some value)
  | misfit {value} : k.fits value = false → field? facets parts k = none →
      facets.extra.lookup k.name = some value → facets.isMisfit k = true →
      Placed facets parts k (some value)

namespace Schema

section OneObject

variable {members : Members Json} {facets : Facets} {parts : Parts Schema}

theorem LoadedFrom.lookup_extra (loaded : LoadedFrom members facets parts)
    (nodup : (names members).Nodup) (k : Keyword) :
    facets.extra.lookup k.name = (members.lookup k.name).filter fun value => !k.fits value := by
  rw [loaded.extra, lookup_unfielded_name nodup]
  congr 1
  funext value
  rw [← Content.isSome_ofJson?, Option.not_isSome]

theorem LoadedFrom.placed (loaded : LoadedFrom members facets parts)
    (unique : (Json.object members).UniqueNames) (k : Keyword) :
    Placed facets parts k (members.lookup k.name) := by
  have hfield := loaded.fields k
  have hextra := loaded.lookup_extra unique.nodup k
  -- field and rest are both read off what stands under the keyword
  have hmisfit : facets.isMisfit k = (facets.extra.lookup k.name).isSome := rfl
  cases hvalue : members.lookup k.name with
  | none =>
    rw [hvalue] at hfield hextra
    exact .absent hfield (lookup_eq_none.mp hextra) (by rw [hmisfit, hextra]; rfl)
  | some value =>
    rw [hvalue, Option.bind_some] at hfield
    rw [hvalue] at hextra
    cases hfits : k.fits value with
    | true =>
      rw [Option.filter_some, hfits] at hextra
      rw [← Content.isSome_ofJson?, Option.isSome_iff_exists] at hfits
      obtain ⟨content, hcontent⟩ := hfits
      have hsame := Content.same_of_ofJson? (unique.of_mem_object (mem_of_lookup hvalue)) hcontent
        fun part _ found hfound hload => same_of_ofJson? hfound hload
      exact .inField (by rw [← Content.isSome_ofJson?, hcontent]; rfl) (hfield.trans hcontent) hsame
        (lookup_eq_none.mp hextra) (by rw [hmisfit, hextra]; rfl)
    | false =>
      rw [Option.filter_some, hfits] at hextra
      rw [← Content.isSome_ofJson?, Option.isSome_eq_false_iff,
        Option.isNone_iff_eq_none] at hfits
      exact .misfit (by rw [← Content.isSome_ofJson?, hfits]; rfl) (hfield.trans hfits) hextra
        (by rw [hmisfit, hextra]; rfl)

end OneObject

/-! ### All schemas below -/

/-- Every keyword of an object is in its place in the schema, every other name is kept with its
value, and the same holds of the schemas in the fields and the values they stand for. -/
inductive Partitioned : Json → Schema → Prop
  | boolean {accepts : Bool} : Partitioned (.bool accepts) (boolean accepts)
  | object {members : Members Json} {facets : Facets} {parts : Parts Schema} :
      (∀ k : Keyword, Placed facets parts k (members.lookup k.name)) →
      (∀ name, Keyword.ofName? name = none →
        facets.extra.lookup name = members.lookup name) →
      (∀ (k : Keyword) (value : Json) (content : Content Schema k),
        members.lookup k.name = some value → field? facets parts k = some content →
          List.Forall₂ Partitioned (k.subvalues value) content.toList) →
      Partitioned (.object members) (object facets parts)

theorem partitioned_of_ofJson? {schema : Schema} {value : Json} (unique : value.UniqueNames)
    (h : ofJson? value = some schema) : Partitioned value schema := by
  induction schema using Schema.induction generalizing value with
  | boolean accepts =>
    obtain ⟨_, rfl, heq⟩ | ⟨_, _, _, -, heq, -⟩ := ofJson?_cases unique h
    · cases heq
      exact .boolean
    · cases heq
  | object facets parts ih =>
    obtain ⟨_, -, heq⟩ | ⟨members, _, _, rfl, heq, loaded⟩ := ofJson?_cases unique h
    · cases heq
    · cases heq
      refine .object (loaded.placed unique) (fun name hname => ?_) ?_
      · rw [loaded.extra, lookup_unfielded_of_none unique.nodup hname]
      · intro k value content hvalue hfield
        have hload := loaded.fields k
        rw [hvalue, hfield, Option.bind_some] at hload
        have hparts := Content.forall₂_subvalues hload.symm
        -- the sub-schemas are loaded from values inside that of the keyword
        refine List.forall₂_iff_zip.mpr ⟨hparts.length_eq, fun {found part} hmem => ?_⟩
        obtain ⟨hfound, hpart⟩ := List.of_mem_zip hmem
        have hunique := unique.of_mem_object (mem_of_lookup hvalue)
        exact ih part ((mem_toList_iff facets).mpr ⟨k, content, hfield, hpart⟩)
          ((Keyword.within_of_mem_subvalues hfound).uniqueNames hunique)
          (List.forall₂_zip hparts hmem)

/-- An object is loaded as a schema in which every one of its members is in its place, and so are
the members of the objects below it that stand for schemas. -/
theorem ofJson_partitioned {members : Members Json}
    (unique : (Json.object members).UniqueNames) :
    ∃ facets parts, ofJson (.object members) = .ok (object facets parts)
      ∧ Partitioned (.object members) (object facets parts) := by
  obtain ⟨facets, parts, h, -⟩ := exists_ofJson?_object unique.nodup
  exact ⟨facets, parts, ofJson_eq_ok.mpr h, partitioned_of_ofJson? unique h⟩

/-- Of the values that do not have the form of their fields, the one in the first property is kept
there. -/
theorem misfitValue_partitioned :
    misfitValue.UniqueNames ∧
      ∃ schema, ofJson misfitValue = .ok schema ∧ Partitioned misfitValue schema := by
  obtain ⟨facets, parts, hload, hplaces⟩ := ofJson_partitioned misfitValue_unique
  exact ⟨misfitValue_unique, object facets parts, hload, hplaces⟩

end Schema

end JsonShape
