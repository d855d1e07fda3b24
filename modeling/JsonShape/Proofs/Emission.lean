import JsonShape.Proofs.Placement
import JsonShape.Proofs.Saving

/-!
# The form in which schemas are written

A loaded schema is written as the object it was loaded from, with its members in another order: the
keywords in their fields come first, in the order of `Keyword.all`, then the names that are no
keywords, then the misfits. No name is written twice, so the written object is loaded as the same
schema and is written again as it is.

Main statement: `Schema.written_canonical`, what is written of a loaded schema is rearranged in this
way, repeats no name, and is a form that loading and writing keep.
-/

namespace JsonShape

open Members

/-! ### Values around their sub-schemas -/

/-- The value of a keyword with nothing in the places of its sub-schemas. -/
def Keyword.frame : Keyword → Json → Json
  | map _, .object members => .object (Parts.mapMembers (fun _ => .null) members)
  | list _, .array values => .array (values.map fun _ => .null)
  | single _, _ => .null
  | items, .array values => .array (values.map fun _ => .null)
  | items, _ => .null
  | _, value => value

theorem Members.mapMembers_const {α β : Type} (b : β) (members : Members α) :
    Parts.mapMembers (fun _ => b) members = (names members).map fun name => (name, b) := by
  simp [Parts.mapMembers, names]

namespace Schema

theorem written_boolean (accepts : Bool) : (boolean accepts).written = .bool accepts := by
  unfold written
  rw [fold_boolean]

theorem written_cases (schema : Schema) :
    (∃ accepts, schema.written = .bool accepts) ∨ ∃ members, schema.written = .object members := by
  cases schema with
  | boolean accepts => exact .inl ⟨accepts, written_boolean accepts⟩
  | object facets parts => exact .inr ⟨_, written_object facets parts⟩

end Schema

namespace Content

variable {k : Keyword} {value : Json}

/-- The sub-schemas of a content are written in their places. -/
theorem subvalues_written (content : Content Schema k) :
    k.subvalues (content.map Schema.written).toJson = content.toList.map Schema.written := by
  cases k with
  | map k =>
    show values (Parts.mapMembers Schema.written content) = (values content).map Schema.written
    simp [values, Parts.mapMembers]
  | items =>
    cases content with
    | tuple schemas => rfl
    | single schema =>
      show Keyword.items.subvalues schema.written = [schema.written]
      obtain ⟨accepts, heq⟩ | ⟨members, heq⟩ := schema.written_cases <;> rw [heq] <;> rfl
  | _ => rfl

/-- Around its sub-schemas a content is written as it was read. -/
theorem frame_written {content : Content Schema k} (h : ofJson? k value = some content) :
    k.frame (content.map Schema.written).toJson = k.frame value := by
  cases k with
  | map k =>
    cases value with
    | object members =>
      show Json.object (Parts.mapMembers _ (Parts.mapMembers Schema.written content))
        = .object (Parts.mapMembers _ members)
      rw [mapMembers_const, mapMembers_const, names_mapMembers, Schema.names_of_mapOf? h]
    | _ => cases h
  | list k =>
    cases value with
    | array values =>
      have hlength := (Schema.forall₂_of_listOf? h).length_eq
      show Json.array (List.map _ (List.map Schema.written content)) = .array (values.map _)
      simp [hlength, Function.comp_def]
    | _ => cases h
  | items =>
    obtain ⟨values, schemas, rfl, rfl, hschemas⟩ | ⟨schema, rfl, hschema⟩ := items_cases h
    · have hlength := (Schema.forall₂_of_listOf? hschemas).length_eq
      show Json.array (List.map _ (List.map Schema.written schemas)) = .array (values.map _)
      simp [hlength, Function.comp_def]
    · have hwritten : Keyword.items.frame schema.written = .null := by
        obtain ⟨accepts, heq⟩ | ⟨members, heq⟩ := schema.written_cases <;> rw [heq] <;> rfl
      refine hwritten.trans ?_
      cases value with
      | array values => simp only [Schema.ofJson?, reduceCtorEq] at hschema
      | _ => rfl
  | type => exact TypeSpec.toJson_of_ofJson? h
  | required =>
    cases value with
    | array values => exact congrArg Json.array (Json.map_of_stringList? h)
    | _ => cases h
  | single k => rfl
  | _ =>
    cases value <;> cases h
    rfl

/-- A tidy content is written without repeated names if its sub-schemas are. -/
theorem Tidy.uniqueNames_written {content : Content Schema k} (tidy : content.Tidy)
    (parts : ∀ part ∈ content.toList, part.written.UniqueNames) :
    (content.map Schema.written).toJson.UniqueNames := by
  have hlist (schemas : List Schema) (h : ∀ part ∈ schemas, part.written.UniqueNames) :
      (Json.array (schemas.map Schema.written)).UniqueNames :=
    .array (List.forall_mem_map.mpr h)
  cases k with
  | text k => exact .string
  | number k => exact .number
  | map k =>
    refine .object ?_ fun member hmember => ?_
    · have hnames := names_mapMembers Schema.written content
      exact hnames.symm ▸ tidy
    · obtain ⟨name, value⟩ := member
      obtain ⟨part, hpart, rfl⟩ := mem_mapMembers.mp hmember
      exact parts part (List.mem_map_of_mem hpart)
  | list k => exact hlist content parts
  | single k => exact parts content (List.mem_singleton.mpr rfl)
  | type => exact TypeSpec.uniqueNames_of_ofJson? tidy
  | required => exact .array (List.forall_mem_map.mpr fun _ _ => .string)
  | uniqueItems => exact .bool
  | choices => exact .array tidy
  | items =>
    cases content with
    | tuple schemas => exact hlist schemas parts
    | single schema => exact parts schema (List.mem_singleton.mpr rfl)

end Content

namespace Schema

/-! ### The order of the members -/

/-- The second value is the first, written as a schema is: the keywords whose values fit stand
first, in the order of `Keyword.all`, then the names that are no keywords and the keywords whose
values do not fit, both in the order in which they stood. The same holds of the values of
sub-schemas, and around these nothing differs. -/
inductive Rearranged : Json → Json → Prop
  | boolean {accepts : Bool} : Rearranged (.bool accepts) (.bool accepts)
  | object {members fields : Members Json} :
      names fields = (Keyword.all.filter fun k => (members.lookup k.name).any k.fits).map
        Keyword.name →
      (∀ (k : Keyword) (value written : Json), members.lookup k.name = some value →
        fields.lookup k.name = some written → k.frame written = k.frame value) →
      (∀ (k : Keyword) (value written : Json), members.lookup k.name = some value →
        fields.lookup k.name = some written →
          List.Forall₂ Rearranged (k.subvalues value) (k.subvalues written)) →
      Rearranged (.object members)
        (.object (fields
          ++ members.filter (fun member => (Keyword.ofName? member.1).isNone)
          ++ members.filter fun member =>
            (Keyword.ofName? member.1).any fun k => !k.fits member.2))

variable {schema : Schema} {value : Json}

theorem unfielded_eq (members : Members Json) :
    unfielded members = members.filter (fun member => (Keyword.ofName? member.1).isNone)
      ++ members.filter fun member => (Keyword.ofName? member.1).any fun k => !k.fits member.2 := by
  have hmisfit : isMisfit = fun member : String × Json =>
      (Keyword.ofName? member.1).any fun k => !k.fits member.2 := by
    funext member
    simp only [isMisfit, ← Content.isSome_ofJson?, Option.not_isSome]
  rw [unfielded, hmisfit]
  rfl

theorem LoadedFrom.names_writtenFields {members : Members Json} {facets : Facets}
    {parts : Parts Schema} (loaded : LoadedFrom members facets parts) :
    names (facets.writtenFields (parts.map written))
      = (Keyword.all.filter fun k => (members.lookup k.name).any k.fits).map Keyword.name := by
  -- a keyword is written if its field is set, and that is so if its value fits
  have hpresent (k : Keyword) :
      (facets.written? (parts.map written) k).isSome = (members.lookup k.name).any k.fits := by
    rw [written?_eq, field?_map, Option.isSome_map, Option.isSome_map, loaded.fields]
    cases members.lookup k.name with
    | none => rfl
    | some value => exact Content.isSome_ofJson? k value
  simp only [← hpresent, Facets.writtenFields, names]
  generalize Keyword.all = keywords
  induction keywords with
  | nil => rfl
  | cons k rest ih => cases h : facets.written? (parts.map written) k <;> simp [h, ih]

/-- What is written of a keyword is the content that was loaded from its value. -/
theorem LoadedFrom.exists_content {members : Members Json} {facets : Facets} {parts : Parts Schema}
    (loaded : LoadedFrom members facets parts) {k : Keyword} {value result : Json}
    (hvalue : members.lookup k.name = some value)
    (hresult : (facets.writtenFields (parts.map written)).lookup k.name = some result) :
    ∃ content : Content Schema k, field? facets parts k = some content
      ∧ Content.ofJson? k value = some content ∧ (content.map written).toJson = result := by
  rw [Facets.lookup_writtenFields, written?_eq, field?_map, Option.map_map] at hresult
  obtain ⟨content, hfield, rfl⟩ := Option.map_eq_some_iff.mp hresult
  have hload := loaded.fields k
  rw [hvalue, hfield, Option.bind_some] at hload
  exact ⟨content, hfield, hload.symm, rfl⟩

/-- A loaded schema is written as its value rearranged. -/
theorem rearranged_written (unique : value.UniqueNames) (h : ofJson? value = some schema) :
    Rearranged value schema.written := by
  induction schema using Schema.induction generalizing value with
  | boolean accepts =>
    obtain ⟨_, rfl, heq⟩ | ⟨_, _, _, -, heq, -⟩ := ofJson?_cases unique h
    · cases heq
      rw [written_boolean]
      exact .boolean
    · cases heq
  | object facets parts ih =>
    obtain ⟨_, -, heq⟩ | ⟨members, _, _, rfl, heq, loaded⟩ := ofJson?_cases unique h
    · cases heq
    · cases heq
      have hmembers : facets.members (parts.map written)
          = facets.writtenFields (parts.map written) ++ facets.extra := rfl
      rw [written_object, hmembers, loaded.extra, unfielded_eq, ← List.append_assoc]
      refine .object loaded.names_writtenFields (fun k value written hvalue hwritten => ?_)
        fun k value written hvalue hwritten => ?_
      · obtain ⟨content, -, hload, rfl⟩ := loaded.exists_content hvalue hwritten
        exact Content.frame_written hload
      · obtain ⟨content, hfield, hload, rfl⟩ := loaded.exists_content hvalue hwritten
        have hparts := Content.forall₂_subvalues hload
        -- each sub-schema is written where the value that it was loaded from stood
        rw [Content.subvalues_written, List.forall₂_map_right_iff]
        refine List.forall₂_iff_zip.mpr ⟨hparts.length_eq, fun {found part} hmem => ?_⟩
        obtain ⟨hfound, hpart⟩ := List.of_mem_zip hmem
        have hunique := unique.of_mem_object (mem_of_lookup hvalue)
        exact ih part ((mem_toList_iff facets).mpr ⟨k, content, hfield, hpart⟩)
          ((Keyword.within_of_mem_subvalues hfound).uniqueNames hunique)
          (List.forall₂_zip hparts hmem)

/-! ### Writing again -/

/-- A tidy schema in which nothing is doubled is written without repeated names. -/
theorem Tidy.uniqueNames_written (tidy : schema.Tidy) (undoubled : schema.Undoubled) :
    schema.written.UniqueNames := by
  induction tidy with
  | @boolean accepts =>
    rw [written_boolean]
    exact .bool
  | @object facets parts hfacets _ ih =>
    cases undoubled with
    | object htop hbelow =>
      rw [written_object]
      refine .object (Facets.nodup_members hfacets.names (Facets.undoubled_map htop))
        fun member hmember => ?_
      obtain ⟨name, value⟩ := member
      -- a written member is that of a field, or is kept as it was
      rcases List.mem_append.mp hmember with hfield | hextra
      · obtain ⟨k, rfl, hwritten⟩ := Facets.mem_writtenFields.mp hfield
        rw [written?_eq, field?_map, Option.map_map] at hwritten
        obtain ⟨content, hcontent, rfl⟩ := Option.map_eq_some_iff.mp hwritten
        refine (hfacets.fields hcontent).uniqueNames_written fun part hpart => ?_
        have hmem := (mem_toList_iff facets).mpr ⟨k, content, hcontent, hpart⟩
        exact ih part hmem (hbelow part hmem)
      · exact hfacets.values _ hextra

/-- What is written without repeated names is the JSON value of the schema. -/
theorem Tidy.toJson_eq_written (tidy : schema.Tidy) (undoubled : schema.Undoubled) :
    schema.toJson = schema.written :=
  Json.collapse_of_uniqueNames (tidy.uniqueNames_written undoubled)

/-- A loaded schema is written with its members in a fixed order, at every depth, and with no name
twice. What is written is loaded as the same schema, so that it is written again as it is. -/
theorem written_canonical (unique : value.UniqueNames) (h : ofJson value = .ok schema) :
    Rearranged value schema.written
      ∧ schema.written.UniqueNames
      ∧ ∃ again, ofJson schema.written = .ok again ∧ again = schema
        ∧ again.written = schema.written := by
  have hload := ofJson_eq_ok.mp h
  obtain ⟨tidy, undoubled⟩ := tidy_of_ofJson? unique hload
  refine ⟨rearranged_written unique hload, tidy.uniqueNames_written undoubled, schema, ?_, rfl, rfl⟩
  rw [← tidy.toJson_eq_written undoubled]
  exact ofJson_eq_ok.mpr (tidy.ofJson?_toJson undoubled)

/-- Values that do not have the form of their fields are written last, at two depths. -/
theorem misfitValue_canonical :
    misfitValue.UniqueNames ∧
      ∃ schema, ofJson misfitValue = .ok schema ∧ Rearranged misfitValue schema.written
        ∧ schema.written.UniqueNames ∧ ofJson schema.written = .ok schema := by
  obtain ⟨schema, hload⟩ := (ofJson_lossless misfitValue misfitValue_unique).1.mpr (.inr ⟨_, rfl⟩)
  obtain ⟨hrearranged, hunique, again, hagain, rfl, -⟩ := written_canonical misfitValue_unique hload
  exact ⟨misfitValue_unique, again, hload, hrearranged, hunique, hagain⟩

end Schema

end JsonShape
