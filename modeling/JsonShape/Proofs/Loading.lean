import JsonShape.Proofs.InferredForm
import JsonShape.Proofs.Writing

/-!
# Loading loses nothing

Every member of a loaded object is either in the field of its keyword or among the other keywords of
the schema, and what is in a field is written as it was read. So the schema of a value is written as
that value, whatever stands under its keywords.

Main statement: by `Schema.ofJson_lossless` a value is a schema exactly if it is a boolean or an
object, and its schema is written as an equal value.
-/

namespace JsonShape

open Members

namespace Json

/-- Nothing is reduced where no name is repeated. -/
theorem collapse_of_uniqueNames {value : Json} (unique : value.UniqueNames) :
    value.collapse = value := by
  induction value using Json.induction with
  | array elements ih =>
    rw [collapse_array, List.map_congr_left (g := id) fun element helement =>
      ih element helement (unique.of_mem_array helement), List.map_id]
  | object members ih =>
    have hall : ∀ member ∈ members, (member.1, member.2.collapse) = member :=
      fun member hmember => by rw [ih member hmember (unique.of_mem_object hmember)]
    rw [collapse_object unique.nodup]
    exact congrArg object ((List.map_congr_left hall).trans (List.map_id' _))
  | _ => rfl

/-- A value in which no name is repeated is equal to itself. -/
theorem same_refl {value : Json} (unique : value.UniqueNames) : value.same value = true := by
  induction value using Json.induction with
  | null => rfl
  | bool value => exact beq_self_eq_true value
  | number value => cases value <;> exact beq_self_eq_true _
  | string value => exact beq_self_eq_true value
  | array elements ih =>
    refine sameElementsUpTo_iff.mpr (List.forall₂_same.mpr fun element helement => ?_)
    exact ih element helement (unique.of_mem_array helement)
  | object members ih =>
    rw [same, sameUpTo, Bool.and_eq_true, beq_iff_eq]
    refine ⟨rfl, sameMembersUpTo_iff.mpr fun member hmember => ?_⟩
    exact ⟨member.2, lookup_of_mem unique.nodup hmember,
      ih member hmember (unique.of_mem_object hmember)⟩

end Json

/-! ### Members and fields -/

namespace Schema

/-- Whether a member is a keyword without a field. -/
def isForeign (member : String × Json) : Bool := (Keyword.ofName? member.1).isNone

/-- Whether a member is a keyword whose value does not have the form of its field. -/
def isMisfit (member : String × Json) : Bool :=
  (Keyword.ofName? member.1).any fun k => (Content.ofJson? k member.2).isNone

/-- The members that go into no field, in the order in which they are kept. -/
def unfielded (members : Members Json) : Members Json :=
  members.filter isForeign ++ members.filter isMisfit

/-- The facets and parts that are loaded from members. -/
structure LoadedFrom (members : Members Json) (facets : Facets) (parts : Parts Schema) : Prop where
  fields : ∀ k : Keyword,
    field? facets parts k = (members.lookup k.name).bind (Content.ofJson? k)
  extra : facets.extra = unfielded members

/-- Loading members puts each into its field, or among the other keywords. The induction is over
the members that are left, from any facets and parts that were read before. -/
theorem exists_ofMembers {members : Members Json} (nodup : (names members).Nodup) (facets : Facets)
    (parts : Parts Schema) (misfits : Members Json) :
    ∃ facets' parts', ofMembers members facets parts misfits = object facets' parts'
      ∧ (∀ k : Keyword, field? facets' parts' k
        = ((members.lookup k.name).bind (Content.ofJson? k)).or (field? facets parts k))
      ∧ facets'.extra
        = facets.extra ++ members.filter isForeign ++ (misfits ++ members.filter isMisfit) := by
  induction members generalizing facets parts misfits with
  | nil => exact ⟨_, _, ofMembers.eq_1 .., field?_extra facets parts _, by simp⟩
  | cons member rest ih =>
    obtain ⟨name, value⟩ := member
    rw [names_cons, List.nodup_cons] at nodup
    rw [ofMembers]
    -- a member is foreign, fits the field of its keyword, or is a misfit
    cases hname : Keyword.ofName? name with
    | none =>
      obtain ⟨facets', parts', heq, hfields, hextra⟩ := ih nodup.2 _ parts misfits
      refine ⟨facets', parts', heq, ?_, ?_⟩
      · intro k
        have hne : name ≠ k.name := by
          rintro rfl
          rw [Keyword.ofName?_name] at hname
          cases hname
        rw [hfields, field?_extra, lookup_cons, if_neg hne]
      · simp [hextra, isForeign, isMisfit, hname]
    | some k =>
      have hkey := Keyword.name_of_ofName? hname
      subst hkey
      -- the rest does not come back to this keyword
      have habsent : rest.lookup k.name = none := lookup_eq_none.mpr nodup.1
      dsimp only
      rw [place?_eq]
      cases hcontent : Content.ofJson? k value with
      | some content =>
        obtain ⟨facets', parts', heq, hfields, hextra⟩ :=
          ih nodup.2 (setField facets parts content).1 (setField facets parts content).2 misfits
        refine ⟨facets', parts', heq, fun other => ?_, ?_⟩
        · rw [hfields, Keyword.lookup_cons_name]
          by_cases h : other = k
          · subst h
            rw [habsent, field?_setField, if_pos rfl, Option.bind_some, hcontent]
            rfl
          · rw [field?_setField_of_ne _ _ _ h, if_neg h]
        · rw [extra_setField] at hextra
          simp [hextra, isForeign, isMisfit, hname, hcontent]
      | none =>
        obtain ⟨facets', parts', heq, hfields, hextra⟩ :=
          ih nodup.2 facets parts (misfits ++ [(k.name, value)])
        refine ⟨facets', parts', heq, fun other => ?_, ?_⟩
        · rw [hfields, Keyword.lookup_cons_name]
          by_cases h : other = k
          · subst h
            rw [habsent, if_pos rfl, Option.bind_some, hcontent]
            rfl
          · rw [if_neg h]
        · simp [hextra, isForeign, isMisfit, hname, hcontent]

theorem exists_ofJson?_object {members : Members Json} (nodup : (names members).Nodup) :
    ∃ facets parts, ofJson? (.object members) = some (object facets parts)
      ∧ LoadedFrom members facets parts := by
  obtain ⟨facets, parts, heq, hfields, hextra⟩ := exists_ofMembers nodup {} {} []
  refine ⟨facets, parts, by rw [ofJson?, heq], ?_, ?_⟩
  · intro k
    rw [hfields, field?_empty, Option.or_none]
  · rw [hextra]
    rfl

@[simp] theorem ofJson?_bool (accepts : Bool) :
    ofJson? (.bool accepts) = some (boolean accepts) := by
  rw [ofJson?]

/-- What is loaded is a boolean, or has its fields from the members of an object. -/
theorem ofJson?_cases {value : Json} {schema : Schema} (unique : value.UniqueNames)
    (h : ofJson? value = some schema) :
    (∃ accepts, value = .bool accepts ∧ schema = boolean accepts)
      ∨ ∃ members facets parts, value = .object members ∧ schema = object facets parts
        ∧ LoadedFrom members facets parts := by
  cases value with
  | bool accepts =>
    rw [ofJson?_bool] at h
    cases h
    exact .inl ⟨accepts, rfl, rfl⟩
  | object members =>
    obtain ⟨facets, parts, heq, loaded⟩ := exists_ofJson?_object unique.nodup
    rw [heq] at h
    cases h
    exact .inr ⟨members, facets, parts, rfl, rfl, loaded⟩
  | _ =>
    simp only [ofJson?] at h
    cases h

theorem mem_unfielded {members : Members Json} {member : String × Json} :
    member ∈ unfielded members ↔ member ∈ members
      ∧ ∀ k : Keyword, k.name = member.1 → Content.ofJson? k member.2 = none := by
  obtain ⟨name, value⟩ := member
  rw [unfielded, List.mem_append, List.mem_filter, List.mem_filter, ← and_or_left]
  refine and_congr_right fun _ => ?_
  cases hname : Keyword.ofName? name with
  | none =>
    simp only [isForeign, hname, Option.isNone_none, true_or, true_iff]
    rintro k rfl
    rw [Keyword.ofName?_name] at hname
    cases hname
  | some k =>
    have hkey := Keyword.name_of_ofName? hname
    subst hkey
    simp only [isForeign, isMisfit, hname, Option.isNone_some, Option.any_some, Bool.false_eq_true,
      false_or, Option.isNone_iff_eq_none]
    constructor
    · intro h other heq
      rwa [Keyword.name_injective heq]
    · intro h
      exact h k rfl

/-- Whether a member is foreign is a matter of its name. -/
theorem not_isForeign_of_isMisfit {member misfit : String × Json}
    (h : isMisfit misfit = true) (hname : member.1 = misfit.1) : ¬ isForeign member = true := by
  intro hnone
  rw [isForeign, Option.isNone_iff_eq_none, hname] at hnone
  rw [isMisfit, hnone] at h
  cases h

theorem nodup_unfielded {members : Members Json} (nodup : (names members).Nodup) :
    (names (unfielded members)).Nodup := by
  have hforeign := nodup.sublist (List.filter_sublist (p := isForeign) |>.map Prod.fst)
  have hmisfit := nodup.sublist (List.filter_sublist (p := isMisfit) |>.map Prod.fst)
  rw [unfielded, names_append, List.nodup_append]
  refine ⟨hforeign, hmisfit, ?_⟩
  rintro name hname other hother rfl
  obtain ⟨member, hmember, rfl⟩ := List.mem_map.mp hname
  obtain ⟨misfit, hmisfit, heq⟩ := List.mem_map.mp hother
  exact not_isForeign_of_isMisfit (List.mem_filter.mp hmisfit).2 heq.symm
    (List.mem_filter.mp hmember).2

/-- A loaded keyword is in one place: what is kept of it beside its field does not fit there. -/
theorem LoadedFrom.undoubled {members : Members Json} {facets : Facets} {parts : Parts Schema}
    (loaded : LoadedFrom members facets parts) (nodup : (names members).Nodup) :
    facets.Undoubled parts := by
  intro k hname
  rw [loaded.extra] at hname
  obtain ⟨⟨name, value⟩, hmem, rfl⟩ := List.mem_map.mp hname
  obtain ⟨hmember, hmisfit⟩ := mem_unfielded.mp hmem
  rw [loaded.fields, lookup_of_mem nodup hmember]
  exact hmisfit k rfl

end Schema

/-! ### Lists and objects of schemas -/

namespace Schema

/-- A list of schemas has one for each value. -/
theorem listOf?_eq_some {values : List Json} {schemas : List Schema} :
    listOf? values = some schemas ↔ values.map ofJson? = schemas.map some := by
  induction values generalizing schemas with
  | nil => cases schemas <;> simp [listOf?]
  | cons value rest ih =>
    rw [listOf?]
    cases hvalue : ofJson? value <;> cases hrest : listOf? rest <;> cases schemas <;> simp_all

/-- An object of schemas has one for each member. -/
theorem mapOf?_eq_some {members : Members Json} {schemas : Members Schema} :
    mapOf? members = some schemas ↔
      Parts.mapMembers ofJson? members = Parts.mapMembers some schemas := by
  induction members generalizing schemas with
  | nil => cases schemas <;> simp [mapOf?, Parts.mapMembers]
  | cons member rest ih =>
    obtain ⟨name, value⟩ := member
    rw [mapOf?]
    simp only [Parts.mapMembers] at ih
    cases hvalue : ofJson? value <;> cases hrest : mapOf? rest <;> cases schemas <;>
      simp_all [Parts.mapMembers, Prod.ext_iff]

theorem exists_of_mem_listOf? {values : List Json} {schemas : List Schema}
    (h : listOf? values = some schemas) {part : Schema} (hpart : part ∈ schemas) :
    ∃ value ∈ values, ofJson? value = some part := by
  have hmem : some part ∈ schemas.map some := List.mem_map_of_mem hpart
  rw [← listOf?_eq_some.mp h] at hmem
  exact List.mem_map.mp hmem

theorem exists_of_mem_mapOf? {members : Members Json} {schemas : Members Schema}
    (h : mapOf? members = some schemas) {name : String} {part : Schema}
    (hpart : (name, part) ∈ schemas) :
    ∃ value, (name, value) ∈ members ∧ ofJson? value = some part := by
  have hmem : (name, some part) ∈ Parts.mapMembers some schemas :=
    mem_mapMembers.mpr ⟨part, hpart, rfl⟩
  rw [← mapOf?_eq_some.mp h] at hmem
  exact mem_mapMembers.mp hmem

theorem names_of_mapOf? {members : Members Json} {schemas : Members Schema}
    (h : mapOf? members = some schemas) : names schemas = names members := by
  have hnames := congrArg names (mapOf?_eq_some.mp h)
  rwa [names_mapMembers, names_mapMembers, eq_comm] at hnames

end Schema

theorem Json.map_of_stringList? {values : List Json} {texts : List String}
    (h : stringList? values = some texts) : texts.map .string = values := by
  induction values generalizing texts with
  | nil =>
    cases h
    rfl
  | cons value rest ih =>
    cases value with
    | string text =>
      obtain ⟨others, hothers, rfl⟩ := Option.map_eq_some_iff.mp h
      rw [List.map_cons, ih hothers]
    | _ => cases h

theorem TypeName.name_of_ofName? {text : String} {type : TypeName} (h : ofName? text = some type) :
    type.name = text := by
  rw [ofName?] at h
  have hname := List.find?_some h
  exact beq_iff_eq.mp hname

theorem TypeName.map_of_listOf? {values : List Json} {types : List TypeName}
    (h : listOf? values = some types) : types.map (fun type => .string type.name) = values := by
  induction values generalizing types with
  | nil =>
    cases h
    rfl
  | cons value rest ih =>
    cases value with
    | string text =>
      rw [listOf?] at h
      obtain ⟨type, htype, h⟩ := Option.bind_eq_some_iff.mp h
      obtain ⟨others, hothers, heq⟩ := Option.bind_eq_some_iff.mp h
      cases heq
      rw [List.map_cons, ih hothers, name_of_ofName? htype]
    | _ => cases h

/-- A type is written as it was read. -/
theorem TypeSpec.toJson_of_ofJson? {value : Json} {spec : TypeSpec}
    (h : ofJson? value = some spec) : spec.toJson = value := by
  cases value with
  | string name =>
    rw [ofJson?, Option.some.injEq] at h
    cases hname : TypeName.ofName? name with
    | none =>
      rw [hname] at h
      subst h
      rfl
    | some type =>
      rw [hname] at h
      subst h
      exact congrArg Json.string (TypeName.name_of_ofName? hname)
  | array names =>
    rw [ofJson?] at h
    split at h
    · rw [Option.some.injEq] at h
      cases hnames : TypeName.listOf? names with
      | none =>
        rw [hnames] at h
        subst h
        rfl
      | some types =>
        rw [hnames] at h
        subst h
        exact congrArg Json.array (TypeName.map_of_listOf? hnames)
    · cases h
  | _ => cases h

namespace Content

variable {k : Keyword} {value : Json} {content : Content Schema k}

/-- The value of `items` is a list of schemas or a schema. -/
theorem items_cases {content : Items Schema} (h : ofJson? .items value = some content) :
    (∃ values schemas, value = .array values ∧ content = .tuple schemas
        ∧ Schema.listOf? values = some schemas)
      ∨ ∃ schema, content = .single schema ∧ Schema.ofJson? value = some schema := by
  cases value with
  | array values =>
    obtain ⟨schemas, hschemas, rfl⟩ := Option.map_eq_some_iff.mp h
    exact .inl ⟨values, schemas, rfl, rfl, hschemas⟩
  | _ =>
    obtain ⟨schema, hschema, rfl⟩ := Option.map_eq_some_iff.mp h
    exact .inr ⟨schema, rfl, hschema⟩

/-- The sub-schemas of a content are schemas of values in it. -/
theorem exists_within_of_mem_toList (h : ofJson? k value = some content) {part : Schema}
    (hpart : part ∈ content.toList) :
    ∃ found : Json, found.Within value ∧ Schema.ofJson? found = some part := by
  cases k with
  | map k =>
    cases value with
    | object members =>
      obtain ⟨⟨name, part⟩, hentry, rfl⟩ := List.mem_map.mp hpart
      obtain ⟨found, hfound, heq⟩ := Schema.exists_of_mem_mapOf? h hentry
      exact ⟨found, .member hfound .self, heq⟩
    | _ => cases h
  | list k =>
    cases value with
    | array values =>
      obtain ⟨found, hfound, heq⟩ := Schema.exists_of_mem_listOf? h hpart
      exact ⟨found, .element hfound .self, heq⟩
    | _ => cases h
  | single k =>
    obtain rfl := List.mem_singleton.mp hpart
    exact ⟨value, .self, h⟩
  | items =>
    obtain ⟨values, schemas, rfl, rfl, hschemas⟩ | ⟨schema, rfl, hschema⟩ := items_cases h
    · obtain ⟨found, hfound, heq⟩ := Schema.exists_of_mem_listOf? hschemas hpart
      exact ⟨found, .element hfound .self, heq⟩
    · obtain rfl := List.mem_singleton.mp hpart
      exact ⟨value, .self, hschema⟩
  | _ => cases hpart

theorem exists_of_mem_toList (unique : value.UniqueNames) (h : ofJson? k value = some content)
    {part : Schema} (hpart : part ∈ content.toList) :
    ∃ found : Json, found.UniqueNames ∧ Schema.ofJson? found = some part := by
  obtain ⟨found, hwithin, hload⟩ := exists_within_of_mem_toList h hpart
  exact ⟨found, hwithin.uniqueNames unique, hload⟩

/-- Schemas in a list are written as they were read. -/
theorem sameElements_of_listOf? {values : List Json} {schemas : List Schema}
    (unique : (Json.array values).UniqueNames) (h : Schema.listOf? values = some schemas)
    (parts : ∀ part ∈ schemas, ∀ found : Json, found.UniqueNames →
      Schema.ofJson? found = some part → part.toJson.same found = true) :
    (Json.array (schemas.map Schema.toJson)).same (.array values) = true := by
  -- the schemas and the values they are loaded from, one by one
  have hloads : List.Forall₂ (fun schema value => Schema.ofJson? value = some schema)
      schemas values := by
    have hmap := (Schema.listOf?_eq_some.mp h).symm
    rw [← List.forall₂_eq_eq_eq, List.forall₂_map_left_iff, List.forall₂_map_right_iff] at hmap
    exact hmap.imp fun _ _ heq => heq.symm
  refine Json.sameElementsUpTo_iff.mpr ?_
  rw [List.forall₂_map_left_iff]
  refine List.forall₂_iff_zip.mpr ⟨hloads.length_eq, fun {schema value} hmem => ?_⟩
  exact parts schema (List.of_mem_zip hmem).1 value (unique.of_mem_array (List.of_mem_zip hmem).2)
    (List.forall₂_zip hloads hmem)

/-- A content is written as it was read if its sub-schemas are. -/
theorem same_of_ofJson? (unique : value.UniqueNames) (h : ofJson? k value = some content)
    (parts : ∀ part ∈ content.toList, ∀ found : Json, found.UniqueNames →
      Schema.ofJson? found = some part → part.toJson.same found = true) :
    (content.map Schema.toJson).toJson.same value = true := by
  have hself := Json.same_refl unique
  cases k with
  | map k =>
    cases value with
    | object members =>
      have hnames := Schema.names_of_mapOf? h
      show (Json.object (Parts.mapMembers Schema.toJson content)).same (.object members) = true
      rw [Json.same, Json.sameUpTo, Bool.and_eq_true, beq_iff_eq]
      -- as many members on both sides, and each of the written ones among those that were read
      constructor
      · have hlength := congrArg List.length hnames
        simpa [names, Parts.mapMembers] using hlength
      · refine Json.sameMembersUpTo_iff.mpr ?_
        rintro ⟨name, written⟩ hmember
        obtain ⟨part, hpart, rfl⟩ := mem_mapMembers.mp hmember
        obtain ⟨found, hfound, heq⟩ := Schema.exists_of_mem_mapOf? h hpart
        exact ⟨found, lookup_of_mem unique.nodup hfound,
          parts part (List.mem_map_of_mem hpart) found (unique.of_mem_object hfound) heq⟩
    | _ => cases h
  | list k =>
    cases value with
    | array values => exact sameElements_of_listOf? unique h parts
    | _ => cases h
  | single k => exact parts content (List.mem_singleton.mpr rfl) value unique h
  | items =>
    obtain ⟨values, schemas, rfl, rfl, hschemas⟩ | ⟨schema, rfl, hschema⟩ := items_cases h
    · exact sameElements_of_listOf? unique hschemas parts
    · exact parts schema (List.mem_singleton.mpr rfl) value unique hschema
  | type =>
    show (TypeSpec.toJson content).same value = true
    rwa [TypeSpec.toJson_of_ofJson? h]
  | required =>
    cases value with
    | array values =>
      show (Json.array (List.map .string content)).same (.array values) = true
      rwa [Json.map_of_stringList? h]
    | _ => cases h
  | text k =>
    cases value with
    | string text =>
      cases h
      exact hself
    | _ => cases h
  | number k =>
    cases value with
    | number number =>
      cases h
      exact hself
    | _ => cases h
  | uniqueItems =>
    cases value with
    | bool flag =>
      cases h
      exact hself
    | _ => cases h
  | choices =>
    cases value with
    | array values =>
      cases h
      exact hself
    | _ => cases h

end Content

/-! ### The form of loaded schemas -/

section Tidy

variable {α : Type}

/-- A content has the form in which it is read, the sub-schemas apart. -/
def Content.Tidy {k : Keyword} (content : Content α k) : Prop :=
  match k, content with
  | .map _, schemas => (names schemas).Nodup
  | .type, spec => TypeSpec.ofJson? (TypeSpec.toJson spec) = some spec
  | .choices, values => ∀ value ∈ values, Json.UniqueNames value
  | _, _ => True

/-- The contents are tidy, and the other keywords are such as go into no field. -/
structure Facets.Tidy (facets : Facets) (parts : Parts α) : Prop where
  fields : ∀ {k} {content : Content α k}, field? facets parts k = some content → content.Tidy
  names : (names facets.extra).Nodup
  values : ∀ member ∈ facets.extra, member.2.UniqueNames
  extra : Schema.unfielded facets.extra = facets.extra

theorem Content.tidy_of_ofJson? {k : Keyword} {value : Json} {content : Content Schema k}
    (unique : value.UniqueNames) (h : ofJson? k value = some content) : content.Tidy := by
  cases k with
  | map k =>
    cases value with
    | object members =>
      show (names content).Nodup
      rw [Schema.names_of_mapOf? h]
      exact unique.nodup
    | _ => cases h
  | type =>
    show TypeSpec.ofJson? (TypeSpec.toJson content) = some content
    rwa [TypeSpec.toJson_of_ofJson? h]
  | choices =>
    cases value with
    | array values =>
      obtain rfl : values = content := Option.some.inj h
      exact fun choice hchoice => unique.of_mem_array hchoice
    | _ => cases h
  | _ => trivial

/-- A type is written without objects. -/
theorem TypeSpec.uniqueNames_of_ofJson? {value : Json} {spec : TypeSpec}
    (h : ofJson? value = some spec) : value.UniqueNames := by
  cases value with
  | string name => exact .string
  | array values =>
    rw [ofJson?] at h
    split at h
    · next hall =>
      refine .array fun value hvalue => ?_
      have hstring := List.all_eq_true.mp hall value hvalue
      cases value with
      | string text => exact .string
      | _ => cases hstring
    · cases h
  | _ => cases h

/-- A tidy content is written without repeated names. -/
theorem Content.Tidy.unrepeated {k : Keyword} {content : Content α k} (tidy : content.Tidy) :
    content.Unrepeated := by
  cases k with
  | map k => exact tidy
  | choices => exact fun value hvalue => Json.collapse_of_uniqueNames (tidy value hvalue)
  | type => exact Json.collapse_of_uniqueNames (TypeSpec.uniqueNames_of_ofJson? tidy)
  | _ => trivial

theorem Facets.Tidy.unrepeated {facets : Facets} {parts : Parts α} (tidy : facets.Tidy parts) :
    facets.Unrepeated parts where
  fields h := (tidy.fields h).unrepeated
  names := tidy.names
  extra member hmember := Json.collapse_of_uniqueNames (tidy.values member hmember)

end Tidy

namespace Schema

/-- The members that go into no field are kept in the order in which they are. -/
theorem unfielded_unfielded (members : Members Json) :
    unfielded (unfielded members) = unfielded members := by
  have hforeign : (members.filter isMisfit).filter isForeign = [] := by
    rw [List.filter_eq_nil_iff]
    intro member hmember hnone
    exact not_isForeign_of_isMisfit (List.mem_filter.mp hmember).2 rfl hnone
  have hmisfit : (members.filter isForeign).filter isMisfit = [] := by
    rw [List.filter_eq_nil_iff]
    intro member hmember hsome
    exact not_isForeign_of_isMisfit hsome rfl (List.mem_filter.mp hmember).2
  simp only [unfielded, List.filter_append, hforeign, hmisfit, List.filter_filter, Bool.and_self,
    List.append_nil, List.nil_append]

/-- What is loaded from an object without repeated names is tidy. -/
theorem LoadedFrom.tidy {members : Members Json} {facets : Facets} {parts : Parts Schema}
    (loaded : LoadedFrom members facets parts) (unique : (Json.object members).UniqueNames) :
    facets.Tidy parts where
  fields := by
    intro k content hfield
    rw [loaded.fields] at hfield
    obtain ⟨value, hvalue, hcontent⟩ := Option.bind_eq_some_iff.mp hfield
    exact Content.tidy_of_ofJson? (unique.of_mem_object (mem_of_lookup hvalue)) hcontent
  names := by
    rw [loaded.extra]
    exact nodup_unfielded unique.nodup
  values := by
    intro member hmember
    rw [loaded.extra] at hmember
    exact unique.of_mem_object (mem_unfielded.mp hmember).1
  extra := by
    rw [loaded.extra]
    exact unfielded_unfielded members

/-! ### Loading and writing -/

/-- A member is written for the field of its keyword, or stands among the other keywords. -/
theorem LoadedFrom.mem_names {members : Members Json} {facets : Facets} {parts : Parts Schema}
    (loaded : LoadedFrom members facets parts) (nodup : (names members).Nodup)
    {name : String} (hname : name ∈ names members) :
    name ∈ names (facets.members (parts.map toJson)) := by
  obtain ⟨⟨name, value⟩, hmember, rfl⟩ := List.mem_map.mp hname
  show name ∈ names (facets.writtenFields _ ++ facets.extra)
  rw [names_append, List.mem_append, loaded.extra]
  -- a member that fits no field is kept, any other one is written for its field
  by_cases hfits : ∀ k : Keyword, k.name = name → Content.ofJson? k value = none
  · exact .inr (mem_names_of_mem (mem_unfielded.mpr ⟨hmember, hfits⟩))
  · push Not at hfits
    obtain ⟨k, rfl, hsome⟩ := hfits
    obtain ⟨content, hcontent⟩ := Option.ne_none_iff_exists'.mp hsome
    have hfield : field? facets parts k = some content := by
      rw [loaded.fields, lookup_of_mem nodup hmember]
      exact hcontent
    have hwritten : facets.written? (parts.map toJson) k = some (content.map toJson).toJson := by
      rw [written?_eq, field?_map, hfield]
      rfl
    exact .inl (mem_names_of_mem (Facets.mem_writtenFields.mpr ⟨k, rfl, hwritten⟩))

/-- A written member is equal to the one that was read if the parts are. -/
theorem LoadedFrom.same_member {members : Members Json} {facets : Facets} {parts : Parts Schema}
    (loaded : LoadedFrom members facets parts) (unique : (Json.object members).UniqueNames)
    (hparts : ∀ part ∈ parts.toList, ∀ found : Json, found.UniqueNames →
      ofJson? found = some part → part.toJson.same found = true)
    {member : String × Json} (hmember : member ∈ facets.members (parts.map toJson)) :
    ∃ value, members.lookup member.1 = some value ∧ member.2.same value = true := by
  obtain ⟨name, written⟩ := member
  rcases List.mem_append.mp hmember with hfield | hextra
  · obtain ⟨k, rfl, hwritten⟩ := Facets.mem_writtenFields.mp hfield
    rw [written?_eq, field?_map, Option.map_map] at hwritten
    obtain ⟨content, hcontent, rfl⟩ := Option.map_eq_some_iff.mp hwritten
    have hload := hcontent
    rw [loaded.fields] at hload
    obtain ⟨value, hvalue, hload⟩ := Option.bind_eq_some_iff.mp hload
    refine ⟨value, hvalue, ?_⟩
    refine Content.same_of_ofJson? (unique.of_mem_object (mem_of_lookup hvalue)) hload ?_
    intro part hpart
    exact hparts part ((mem_toList_iff facets).mpr ⟨k, content, hcontent, hpart⟩)
  · rw [loaded.extra] at hextra
    have hmem := (mem_unfielded.mp hextra).1
    exact ⟨written, lookup_of_mem unique.nodup hmem, Json.same_refl (unique.of_mem_object hmem)⟩

/-- A loaded schema is written as it was read if its parts are. -/
theorem LoadedFrom.same {members : Members Json} {facets : Facets} {parts : Parts Schema}
    (loaded : LoadedFrom members facets parts) (unique : (Json.object members).UniqueNames)
    (hparts : ∀ part ∈ parts.toList, ∀ found : Json, found.UniqueNames →
      ofJson? found = some part → part.toJson.same found = true) :
    (object facets parts).toJson.same (.object members) = true := by
  have tidy := loaded.tidy unique
  have undoubled := loaded.undoubled unique.nodup
  have nodup := Facets.nodup_members tidy.names (Facets.undoubled_map (f := toJson) undoubled)
  -- both have the same names, each once
  have hperm : (names (facets.members (parts.map toJson))).Perm (names members) := by
    rw [List.perm_ext_iff_of_nodup nodup unique.nodup]
    refine fun name => ⟨fun hname => ?_, loaded.mem_names unique.nodup⟩
    obtain ⟨member, hmember, rfl⟩ := List.mem_map.mp hname
    obtain ⟨value, hvalue, -⟩ := loaded.same_member unique hparts hmember
    exact mem_names_of_mem (mem_of_lookup hvalue)
  rw [toJson_of_undoubled tidy.unrepeated undoubled, Json.same, Json.sameUpTo, Bool.and_eq_true,
    beq_iff_eq]
  refine ⟨?_, Json.sameMembersUpTo_iff.mpr fun member => loaded.same_member unique hparts⟩
  simpa [names] using hperm.length_eq

/-- The schema of a value is written as that value. -/
theorem same_of_ofJson? {schema : Schema} {value : Json} (unique : value.UniqueNames)
    (h : ofJson? value = some schema) : schema.toJson.same value = true := by
  induction schema using Schema.induction generalizing value with
  | boolean accepts =>
    obtain ⟨_, rfl, heq⟩ | ⟨_, _, _, -, heq, -⟩ := ofJson?_cases unique h
    · cases heq
      exact beq_self_eq_true accepts
    · cases heq
  | object facets parts ih =>
    obtain ⟨_, -, heq⟩ | ⟨members, _, _, rfl, heq, loaded⟩ := ofJson?_cases unique h
    · cases heq
    · cases heq
      exact loaded.same unique fun part hpart found hfound hload => ih part hpart hfound hload

theorem ofJson_eq_ok {schema : Schema} {value : Json} :
    ofJson value = .ok schema ↔ ofJson? value = some schema := by
  rw [ofJson]
  cases ofJson? value <;> simp

/-- Exactly the booleans and the objects are schemas, whatever stands in the objects, and a schema
is written as the value it was loaded from. -/
theorem ofJson_lossless (value : Json) (unique : value.UniqueNames) :
    ((∃ schema, ofJson value = .ok schema) ↔
        (∃ accepts, value = .bool accepts) ∨ ∃ members, value = .object members)
      ∧ ∀ schema, ofJson value = .ok schema → schema.toJson.same value = true := by
  constructor
  · constructor
    · rintro ⟨schema, h⟩
      obtain ⟨accepts, rfl, -⟩ | ⟨members, _, _, rfl, -, -⟩ :=
        ofJson?_cases unique (ofJson_eq_ok.mp h)
      · exact .inl ⟨accepts, rfl⟩
      · exact .inr ⟨members, rfl⟩
    · rintro (⟨accepts, rfl⟩ | ⟨members, rfl⟩)
      · exact ⟨.boolean accepts, ofJson_eq_ok.mpr (ofJson?_bool accepts)⟩
      · obtain ⟨facets, parts, heq, -⟩ := exists_ofJson?_object unique.nodup
        exact ⟨object facets parts, ofJson_eq_ok.mpr heq⟩
  · intro schema h
    exact same_of_ofJson? unique (ofJson_eq_ok.mp h)

/-- An object with values that do not have the form of their fields, at two depths, beside values
that have. -/
def misfitValue : Json :=
  .object
    [("properties", .object [("a", .object [("minLength", .string "x"), ("title", .string "A")])]),
     ("type", .number 1), ("items", .array [.bool true, .null]), ("unit", .object []),
     ("not", .bool false)]

theorem misfitValue_unique : misfitValue.UniqueNames := by
  refine .object (by decide) ?_
  simp only [List.forall_mem_cons]
  refine ⟨.object (by decide) ?_, .number, .array ?_, .object List.nodup_nil (by simp), .bool,
    by simp⟩
  · simp only [List.forall_mem_cons]
    refine ⟨.object (by decide) ?_, by simp⟩
    simp only [List.forall_mem_cons]
    exact ⟨.string, .string, by simp⟩
  · simp only [List.forall_mem_cons]
    exact ⟨.bool, .null, by simp⟩

theorem misfitValue_lossless :
    misfitValue.UniqueNames ∧
      ∃ schema, ofJson misfitValue = .ok schema ∧ schema.toJson.same misfitValue = true := by
  have hlossless := ofJson_lossless misfitValue misfitValue_unique
  obtain ⟨schema, hschema⟩ := hlossless.1.mpr (.inr ⟨_, rfl⟩)
  exact ⟨misfitValue_unique, schema, hschema, hlossless.2 schema hschema⟩

end Schema

end JsonShape
