import JsonShape.Proofs.Loading

/-!
# Schemas that are read back as they are

A schema that was loaded, or was edited afterwards, is tidy: its contents have the form in which
they are read, and what stands among its other keywords goes into no field. A tidy schema is written
so that it is read back (`Schema.Tidy.ofJson?_toJson`), unless a keyword stands both in its field
and among the other keywords: the written value is then the one that goes into no field, and what
the field holds is lost (`Schema.Tidy.undoubled_of_same`).

Main statement: `Schema.Tidy.saved_iff`, a tidy schema is read back as an equal one exactly if
nowhere in it a keyword is doubled.
-/

namespace JsonShape

open Members

/-! ### Equality field by field -/

section Relate

variable {α β γ : Type} {related : β → γ → Bool} (f : α → β)

theorem relateOption_map {δ : Type} {related : β → δ → Bool} (a : Option α) (b : Option δ) :
    relateOption related (a.map f) b = relateOption (fun a b => related (f a) b) a b := by
  cases a <;> cases b <;> rfl

theorem relateList_map (as : List α) (bs : List γ) :
    relateList related (as.map f) bs = relateList (fun a b => related (f a) b) as bs := by
  induction as generalizing bs with
  | nil => cases bs <;> rfl
  | cons a as ih => cases bs <;> simp [relateList, ih]

theorem Members.relate_map (as : Members α) (bs : Members γ) :
    relate related (Parts.mapMembers f as) bs = relate (fun a b => related (f a) b) as bs := by
  simp [relate, Parts.mapMembers, Function.comp_def]

theorem Items.relate_map (a : Items α) (b : Items γ) :
    relate related (a.map f) b = relate (fun a b => related (f a) b) a b := by
  cases a with
  | tuple as =>
    cases b with
    | tuple bs => exact relateList_map f as bs
    | single b => rfl
  | single a => cases b <;> rfl

theorem Parts.relate_map (parts : Parts α) (others : Parts γ) :
    relate related (parts.map f) others = relate (fun a b => related (f a) b) parts others := by
  have hitems : (parts.map f).items = parts.items.map (Items.map f) := rfl
  simp only [relate, map?_map, list?_map, single?_map, hitems, relateOption_map,
    Members.relate_map, relateList_map, Items.relate_map]

end Relate

/-- Equality of contents. -/
def Content.same {k : Keyword} (a b : Content Schema k) : Bool :=
  match k, a, b with
  | .text _, a, b => a == b
  | .number _, a, b => Number.same a b
  | .map _, a, b => Members.relate Schema.same a b
  | .list _, a, b => relateList Schema.same a b
  | .single _, a, b => Schema.same a b
  | .type, a, b => TypeSpec.same a b
  | .required, a, b => a == b
  | .uniqueItems, a, b => a == b
  | .choices, a, b => Json.sameElements a b
  | .items, a, b => Items.relate Schema.same a b

theorem relateOption_beq {α : Type} [BEq α] (a b : Option α) :
    relateOption (· == ·) a b = (a == b) := by
  cases a <;> cases b <;> rfl

theorem Schema.same_object_eq (facets facets' : Facets) (parts parts' : Parts Schema) :
    (object facets parts).same (object facets' parts')
      = (facets.same facets' && parts.relate Schema.same parts') := by
  unfold Schema.same
  rw [fold_object]
  dsimp only
  rw [Parts.relate_map]

/-- Object schemas are equal if their fields and their other keywords are. -/
theorem Schema.same_object_iff {facets facets' : Facets} {parts parts' : Parts Schema} :
    (object facets parts).same (object facets' parts') = true ↔
      (∀ k : Keyword, relateOption Content.same (field? facets parts k) (field? facets' parts' k)
        = true) ∧ Members.relate Json.same facets.extra facets'.extra = true := by
  rw [same_object_eq]
  simp only [Facets.same, Parts.relate, Bool.and_eq_true, List.all_eq_true]
  constructor
  · rintro ⟨⟨⟨⟨⟨⟨⟨htext, hnumber⟩, htype⟩, hrequired⟩, hunique⟩, hchoices⟩, hextra⟩,
      ⟨⟨hmap, hlist⟩, hsingle⟩, hitems⟩
    refine ⟨fun k => ?_, hextra⟩
    cases k with
    | text k => exact (relateOption_beq _ _).trans (htext k k.mem_all)
    | number k => exact hnumber k k.mem_all
    | map k => exact hmap k k.mem_all
    | list k => exact hlist k k.mem_all
    | single k => exact hsingle k k.mem_all
    | type => exact htype
    | required => exact (relateOption_beq _ _).trans hrequired
    | uniqueItems => exact (relateOption_beq _ _).trans hunique
    | choices => exact hchoices
    | items => exact hitems
  · rintro ⟨hfields, hextra⟩
    exact ⟨⟨⟨⟨⟨⟨⟨fun k _ => (relateOption_beq _ _).symm.trans (hfields (.text k)),
      fun k _ => hfields (.number k)⟩, hfields .type⟩,
      (relateOption_beq _ _).symm.trans (hfields .required)⟩,
      (relateOption_beq _ _).symm.trans (hfields .uniqueItems)⟩, hfields .choices⟩, hextra⟩,
      ⟨⟨fun k _ => hfields (.map k), fun k _ => hfields (.list k)⟩,
      fun k _ => hfields (.single k)⟩, hfields .items⟩

theorem Members.relate_of_perm {α : Type} {related : α → α → Bool} {members others : Members α}
    (perm : members.Perm others) (nodup : (names others).Nodup)
    (h : ∀ member ∈ members, related member.2 member.2 = true) :
    relate related members others = true := by
  rw [relate, Bool.and_eq_true, beq_iff_eq, List.all_eq_true]
  refine ⟨perm.length_eq, ?_⟩
  rintro ⟨name, value⟩ hmember
  show (others.lookup name).any (related value) = true
  rw [lookup_of_mem nodup (perm.mem_iff.mp hmember)]
  exact h (name, value) hmember

theorem Members.relate_self {α : Type} {related : α → α → Bool} {members : Members α}
    (nodup : (names members).Nodup) (h : ∀ member ∈ members, related member.2 member.2 = true) :
    relate related members members = true :=
  relate_of_perm (List.Perm.refl members) nodup h

theorem relateList_self {α : Type} {related : α → α → Bool} {as : List α}
    (h : ∀ a ∈ as, related a a = true) : relateList related as as = true :=
  relateList_iff.mpr (List.forall₂_same.mpr h)

theorem TypeSpec.same_self {spec : TypeSpec} (unique : spec.toJson.UniqueNames) :
    spec.same spec = true := by
  cases spec with
  | single type => exact beq_self_eq_true type
  | several types => exact beq_self_eq_true types
  | other written => exact Json.same_refl unique

/-! ### Schemas without repeated names -/

/-- No name is repeated in a content, the sub-schemas apart. -/
def Content.UniqueNames {α : Type} {k : Keyword} (content : Content α k) : Prop :=
  match k, content with
  | .map _, schemas => (names schemas).Nodup
  | .type, spec => (TypeSpec.toJson spec).UniqueNames
  | .choices, values => ∀ value ∈ values, Json.UniqueNames value
  | _, _ => True

/-- No name is repeated in the contents or among the other keywords. -/
structure Facets.UniqueNames {α : Type} (facets : Facets) (parts : Parts α) : Prop where
  fields : ∀ {k} {content : Content α k}, field? facets parts k = some content → content.UniqueNames
  names : (names facets.extra).Nodup
  values : ∀ member ∈ facets.extra, member.2.UniqueNames

/-- No name is repeated anywhere in a schema. -/
inductive Schema.UniqueNames : Schema → Prop
  | boolean {accepts} : UniqueNames (boolean accepts)
  | object {facets parts} : facets.UniqueNames parts → (∀ part ∈ parts.toList, UniqueNames part) →
      UniqueNames (object facets parts)

/-- A content without repeated names is equal to itself if its sub-schemas are. -/
theorem Content.UniqueNames.same_self {k : Keyword} {content : Content Schema k}
    (unique : content.UniqueNames) (parts : ∀ part ∈ content.toList, part.same part = true) :
    content.same content = true := by
  cases k with
  | text k => exact beq_self_eq_true content
  | number k =>
    have hself : (Json.number content).same (.number content) = true := Json.same_refl .number
    exact hself
  | map k =>
    exact Members.relate_self unique fun entry hentry => parts _ (List.mem_map_of_mem hentry)
  | list k => exact relateList_self parts
  | single k => exact parts content (List.mem_singleton.mpr rfl)
  | type => exact TypeSpec.same_self unique
  | required => exact beq_self_eq_true content
  | uniqueItems => exact beq_self_eq_true content
  | choices => exact Json.same_refl (.array unique)
  | items =>
    cases content with
    | tuple schemas => exact relateList_self parts
    | single schema => exact parts schema (List.mem_singleton.mpr rfl)

/-- A schema without repeated names is equal to itself. -/
theorem Schema.UniqueNames.same_self {schema : Schema} (unique : schema.UniqueNames) :
    schema.same schema = true := by
  induction unique with
  | @boolean accepts => exact beq_self_eq_true accepts
  | @object facets parts hfacets _ ih =>
    refine same_object_iff.mpr ⟨fun k => ?_, ?_⟩
    · cases hfield : field? facets parts k with
      | none => rfl
      | some content =>
        refine (hfacets.fields hfield).same_self fun part hpart => ih part ?_
        exact (mem_toList_iff facets).mpr ⟨k, content, hfield, hpart⟩
    · exact relate_self hfacets.names fun member hmember =>
        Json.same_refl (hfacets.values member hmember)

theorem Content.Tidy.uniqueNames {α : Type} {k : Keyword} {content : Content α k}
    (tidy : content.Tidy) : content.UniqueNames := by
  cases k with
  | map k => exact tidy
  | type => exact TypeSpec.uniqueNames_of_ofJson? tidy
  | choices => exact tidy
  | _ => trivial

/-! ### Tidy schemas -/

namespace Schema

/-- A schema and all below it are tidy. -/
inductive Tidy : Schema → Prop
  | boolean {accepts} : Tidy (boolean accepts)
  | object {facets parts} : facets.Tidy parts → (∀ part ∈ parts.toList, Tidy part) →
      Tidy (object facets parts)

/-- Nowhere in a schema a keyword stands both in its field and among the other keywords. -/
inductive Undoubled : Schema → Prop
  | boolean {accepts} : Undoubled (boolean accepts)
  | object {facets parts} : facets.Undoubled parts → (∀ part ∈ parts.toList, Undoubled part) →
      Undoubled (object facets parts)

theorem Tidy.uniqueNames {schema : Schema} (tidy : schema.Tidy) : schema.UniqueNames := by
  induction tidy with
  | boolean => exact .boolean
  | object hfacets _ ih =>
    refine .object ⟨fun hfield => ?_, hfacets.names, hfacets.values⟩ ih
    exact (hfacets.fields hfield).uniqueNames

/-- A tidy schema is equal to itself. -/
theorem Tidy.same_self {schema : Schema} (tidy : schema.Tidy) : schema.same schema = true :=
  tidy.uniqueNames.same_self

/-- A loaded schema is tidy, and nothing in it is doubled. -/
theorem tidy_of_ofJson? {schema : Schema} {value : Json} (unique : value.UniqueNames)
    (h : ofJson? value = some schema) : schema.Tidy ∧ schema.Undoubled := by
  induction schema using Schema.induction generalizing value with
  | boolean accepts => exact ⟨.boolean, .boolean⟩
  | object facets parts ih =>
    obtain ⟨_, -, heq⟩ | ⟨members, _, _, rfl, heq, loaded⟩ := ofJson?_cases unique h
    · cases heq
    · cases heq
      have hparts : ∀ part ∈ parts.toList, part.Tidy ∧ part.Undoubled := by
        intro part hpart
        obtain ⟨k, content, hfield, hmem⟩ := (mem_toList_iff facets).mp hpart
        rw [loaded.fields] at hfield
        obtain ⟨found, hfound, hcontent⟩ := Option.bind_eq_some_iff.mp hfield
        obtain ⟨inner, hinner, hload⟩ := Content.exists_of_mem_toList
          (unique.of_mem_object (mem_of_lookup hfound)) hcontent hmem
        exact ih part hpart hinner hload
      exact ⟨.object (loaded.tidy unique) fun part hpart => (hparts part hpart).1,
        .object (loaded.undoubled unique.nodup) fun part hpart => (hparts part hpart).2⟩

theorem toJson_cases (schema : Schema) :
    (∃ accepts, schema.toJson = .bool accepts) ∨ ∃ members, schema.toJson = .object members := by
  cases schema with
  | boolean accepts => exact .inl ⟨accepts, rfl⟩
  | object facets parts =>
    rw [toJson, written_object, Json.collapse]
    exact .inr ⟨_, rfl⟩

end Schema

/-- Schemas in a list are read back if each is. -/
theorem Schema.listOf?_toJson {schemas : List Schema}
    (h : ∀ part ∈ schemas, ofJson? part.toJson = some part) :
    listOf? (schemas.map toJson) = some schemas := by
  rw [listOf?_eq_some, List.map_map]
  exact List.map_congr_left h

/-- A tidy content is read back from what it is written as, if its sub-schemas are. -/
theorem Content.Tidy.ofJson?_toJson {k : Keyword} {content : Content Schema k}
    (tidy : content.Tidy)
    (parts : ∀ part ∈ content.toList, Schema.ofJson? part.toJson = some part) :
    ofJson? k (content.map Schema.toJson).toJson = some content := by
  cases k with
  | map k =>
    show Schema.mapOf? (Parts.mapMembers Schema.toJson content) = some content
    rw [Schema.mapOf?_eq_some, Parts.mapMembers, Parts.mapMembers, List.map_map]
    refine List.map_congr_left fun entry hentry => ?_
    exact congrArg (entry.1, ·) (parts entry.2 (List.mem_map_of_mem hentry))
  | list k => exact Schema.listOf?_toJson parts
  | single k => exact parts content (List.mem_singleton.mpr rfl)
  | type => exact tidy
  | required => exact Json.stringList?_map content
  | items =>
    cases content with
    | tuple schemas =>
      exact congrArg (Option.map Items.tuple) (Schema.listOf?_toJson parts)
    | single schema =>
      have hload := parts schema (List.mem_singleton.mpr rfl)
      show ofJson? .items schema.toJson = some (Items.single schema)
      -- what a schema is written as is no list
      obtain ⟨accepts, heq⟩ | ⟨members, heq⟩ := schema.toJson_cases
      · rw [heq] at hload ⊢
        exact congrArg (Option.map Items.single) hload
      · rw [heq] at hload ⊢
        exact congrArg (Option.map Items.single) hload
  | _ => rfl

/-! ### Reading back -/

namespace Schema

variable {facets facets' : Facets} {parts parts' : Parts Schema}

/-- Where a keyword stands among the other keywords too, that value is read. -/
theorem lookup_written (tidy : facets.Tidy parts) (k : Keyword) :
    (ofEntries (facets.members (parts.map toJson))).lookup k.name
      = (facets.extra.lookup k.name).or
        ((field? facets parts k).map fun content => (content.map toJson).toJson) := by
  have happend : facets.members (parts.map toJson)
      = facets.writtenFields (parts.map toJson) ++ facets.extra := rfl
  rw [happend, lookup_ofEntries_append (Facets.nodup_writtenFields _ _) tidy.names,
    Facets.lookup_writtenFields, written?_eq, field?_map, Option.map_map]
  rfl

/-- A doubled keyword loses its field. -/
theorem LoadedFrom.field?_of_mem
    (loaded : LoadedFrom (ofEntries (facets.members (parts.map toJson))) facets' parts')
    (tidy : facets.Tidy parts) {k : Keyword} (hname : k.name ∈ names facets.extra) :
    field? facets' parts' k = none := by
  obtain ⟨value, hvalue⟩ := exists_lookup hname
  have hmember := mem_of_lookup hvalue
  rw [← tidy.extra] at hmember
  rw [loaded.fields, lookup_written tidy, hvalue]
  exact (mem_unfielded.mp hmember).2 k rfl

/-- Any other keyword is read from its field. -/
theorem LoadedFrom.field?_of_notMem
    (loaded : LoadedFrom (ofEntries (facets.members (parts.map toJson))) facets' parts')
    (tidy : facets.Tidy parts) {k : Keyword} (hname : k.name ∉ names facets.extra) :
    field? facets' parts' k
      = (field? facets parts k).bind fun content =>
        Content.ofJson? k (content.map toJson).toJson := by
  rw [loaded.fields, lookup_written tidy, lookup_eq_none.mpr hname]
  cases field? facets parts k <;> rfl

/-- What is read back from a schema without doubled keywords has the same other keywords. -/
theorem unfielded_members (tidy : facets.Tidy parts)
    (hparts : ∀ part ∈ parts.toList, ofJson? part.toJson = some part) :
    unfielded (facets.members (parts.map toJson)) = facets.extra := by
  have hfits : ∀ member ∈ facets.writtenFields (parts.map toJson),
      isForeign member = false ∧ isMisfit member = false := by
    rintro ⟨name, value⟩ hmember
    obtain ⟨k, rfl, hwritten⟩ := Facets.mem_writtenFields.mp hmember
    rw [written?_eq, field?_map, Option.map_map] at hwritten
    obtain ⟨content, hcontent, rfl⟩ := Option.map_eq_some_iff.mp hwritten
    have hload := (tidy.fields hcontent).ofJson?_toJson fun part hpart =>
      hparts part ((mem_toList_iff facets).mpr ⟨k, content, hcontent, hpart⟩)
    simp [isForeign, isMisfit, Keyword.ofName?_name, hload]
  have hforeign : (facets.writtenFields (parts.map toJson)).filter isForeign = [] :=
    List.filter_eq_nil_iff.mpr fun member hmember => by simp [hfits member hmember]
  have hmisfit : (facets.writtenFields (parts.map toJson)).filter isMisfit = [] :=
    List.filter_eq_nil_iff.mpr fun member hmember => by simp [hfits member hmember]
  show unfielded (facets.writtenFields _ ++ facets.extra) = _
  rw [unfielded, List.filter_append, List.filter_append, hforeign, hmisfit]
  exact tidy.extra

/-- A tidy schema without doubled keywords is read back as it is. -/
theorem Tidy.ofJson?_toJson {schema : Schema} (tidy : schema.Tidy) (undoubled : schema.Undoubled) :
    ofJson? schema.toJson = some schema := by
  induction tidy with
  | boolean => exact ofJson?_bool _
  | @object facets parts hfacets _ ih =>
    cases undoubled with
    | object htop hbelow =>
      have hparts : ∀ part ∈ parts.toList, ofJson? part.toJson = some part :=
        fun part hpart => ih part hpart (hbelow part hpart)
      rw [toJson_of_unrepeated hfacets.unrepeated]
      obtain ⟨facets', parts', heq, loaded⟩ := exists_ofJson?_object (nodup_ofEntries _)
      rw [heq]
      have hfields : ∀ k, field? facets' parts' k = field? facets parts k := by
        intro k
        by_cases hname : k.name ∈ names facets.extra
        · rw [loaded.field?_of_mem hfacets hname, htop k hname]
        · rw [loaded.field?_of_notMem hfacets hname]
          cases hfield : field? facets parts k with
          | none => rfl
          | some content =>
            refine (hfacets.fields hfield).ofJson?_toJson fun part hpart => hparts part ?_
            exact (mem_toList_iff facets).mpr ⟨k, content, hfield, hpart⟩
      have hextra : facets'.extra = facets.extra := by
        have hnodup := Facets.nodup_members hfacets.names (Facets.undoubled_map (f := toJson) htop)
        rw [loaded.extra, ofEntries_of_nodup hnodup, unfielded_members hfacets hparts]
      obtain ⟨rfl, rfl⟩ := eq_of_fields hfields hextra
      rfl

/-- If a list is read back as an equal one, so is each schema in it. -/
theorem exists_same_of_listOf? {schemas read : List Schema}
    (h : listOf? (schemas.map toJson) = some read) (hsame : relateList same read schemas = true)
    {part : Schema} (hpart : part ∈ schemas) :
    ∃ found, ofJson? part.toJson = some found ∧ found.same part = true := by
  rw [listOf?_eq_some, List.map_map] at h
  induction schemas generalizing read with
  | nil => cases hpart
  | cons schema rest ih =>
    cases read with
    | nil => cases h
    | cons found others =>
      rw [List.map_cons, List.map_cons, List.cons.injEq] at h
      rw [relateList, Bool.and_eq_true] at hsame
      rcases List.mem_cons.mp hpart with rfl | hrest
      · exact ⟨found, h.1, hsame.1⟩
      · exact ih h.2 hsame.2 hrest

end Schema

/-- If a content is read back as an equal one, so is each of its sub-schemas. -/
theorem Content.Tidy.exists_same {k : Keyword} {content read : Content Schema k}
    (tidy : content.Tidy) (h : ofJson? k (content.map Schema.toJson).toJson = some read)
    (hsame : read.same content = true) {part : Schema} (hpart : part ∈ content.toList) :
    ∃ found, Schema.ofJson? part.toJson = some found ∧ found.same part = true := by
  cases k with
  | map k =>
    obtain ⟨⟨name, part⟩, hentry, rfl⟩ := List.mem_map.mp hpart
    have hmap := Schema.mapOf?_eq_some.mp h
    have hmember : (name, Schema.ofJson? part.toJson) ∈ Parts.mapMembers some read := by
      rw [← hmap]
      exact mem_mapMembers.mpr ⟨_, mem_mapMembers.mpr ⟨part, hentry, rfl⟩, rfl⟩
    obtain ⟨found, hfound, heq⟩ := mem_mapMembers.mp hmember
    refine ⟨found, heq.symm, ?_⟩
    change Members.relate Schema.same read content = true at hsame
    rw [Members.relate, Bool.and_eq_true, List.all_eq_true] at hsame
    have hany : (content.lookup name).any found.same = true := hsame.2 _ hfound
    rwa [lookup_of_mem tidy hentry] at hany
  | list k => exact Schema.exists_same_of_listOf? h hsame hpart
  | single k =>
    obtain rfl := List.mem_singleton.mp hpart
    exact ⟨read, h, hsame⟩
  | items =>
    obtain ⟨values, schemas, hvalue, rfl, hschemas⟩ | ⟨schema, rfl, hschema⟩ := items_cases h
    · cases content with
      | tuple others =>
        obtain rfl : others.map Schema.toJson = values := Json.array.inj hvalue
        exact Schema.exists_same_of_listOf? hschemas hsame hpart
      | single other => cases hsame
    · cases content with
      | tuple others => cases hsame
      | single other =>
        obtain rfl := List.mem_singleton.mp hpart
        exact ⟨schema, hschema, hsame⟩
  | _ => cases hpart

namespace Schema

/-- A schema with a doubled keyword is not read back. -/
theorem Tidy.undoubled_of_same {schema read : Schema} (tidy : schema.Tidy)
    (h : ofJson? schema.toJson = some read) (hsame : read.same schema = true) :
    schema.Undoubled := by
  induction tidy generalizing read with
  | boolean => exact .boolean
  | @object facets parts hfacets _ ih =>
    rw [toJson_of_unrepeated hfacets.unrepeated] at h
    obtain ⟨facets', parts', heq, loaded⟩ := exists_ofJson?_object (nodup_ofEntries _)
    rw [heq] at h
    cases h
    have hfields := (same_object_iff.mp hsame).1
    -- the value among the other keywords hides the field, so the field is not read back
    have htop : facets.Undoubled parts := by
      intro k hname
      have hfield := hfields k
      rw [loaded.field?_of_mem hfacets hname] at hfield
      cases hnone : field? facets parts k with
      | none => rfl
      | some content =>
        rw [hnone] at hfield
        cases hfield
    refine .object htop fun part hpart => ?_
    obtain ⟨k, content, hcontent, hmem⟩ := (mem_toList_iff facets).mp hpart
    -- nothing hides the field that holds the part, so the part itself is read back
    have hname : k.name ∉ names facets.extra := by
      intro hname
      rw [htop k hname] at hcontent
      cases hcontent
    have hfield := hfields k
    rw [loaded.field?_of_notMem hfacets hname, hcontent, Option.bind_some] at hfield
    cases hread : Content.ofJson? k (content.map toJson).toJson with
    | none =>
      rw [hread] at hfield
      cases hfield
    | some other =>
      rw [hread] at hfield
      obtain ⟨found, hfound, hsame⟩ := (hfacets.fields hcontent).exists_same hread hfield hmem
      exact ih part hpart hfound hsame

/-- Reading what a schema is written as gives an equal schema. -/
def Saved (schema : Schema) : Prop :=
  ∃ read, ofJson schema.toJson = .ok read ∧ read.same schema = true

/-- A tidy schema is read back exactly if no keyword in it is doubled. -/
theorem Tidy.saved_iff {schema : Schema} (tidy : schema.Tidy) :
    schema.Saved ↔ schema.Undoubled := by
  constructor
  · rintro ⟨read, h, hsame⟩
    exact tidy.undoubled_of_same (ofJson_eq_ok.mp h) hsame
  · intro undoubled
    exact ⟨schema, ofJson_eq_ok.mpr (tidy.ofJson?_toJson undoubled), tidy.same_self⟩

end Schema

end JsonShape
