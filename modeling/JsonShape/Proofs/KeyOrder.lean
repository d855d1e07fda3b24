import JsonShape.Inference.Document
import JsonShape.Proofs.NormalForm
import JsonShape.Proofs.ObjectArrays

/-!
# Inference and the order of keys

Values are equal if they differ only in the order of the members of objects and in the sign of
zeros. Inference reads members by name and compares schemas by equality, so it gives equal schemas
for equal values, and equal documents.

Main statement: `Inferrer.same_infer_and_document`, if the settings fix the present, equal values
have equal schemas and equal documents, whenever they are inferred.
-/

namespace JsonShape

open Members

/-! ### Equal values -/

/-- Equal values have the same names at every depth. -/
theorem Json.UniqueNames.of_same {value other : Json} (unique : value.UniqueNames)
    (h : value.same other = true) : other.UniqueNames := by
  induction unique generalizing other with
  | null =>
    cases other with
    | null => exact .null
    | _ => cases h
  | bool =>
    cases other with
    | bool => exact .bool
    | _ => cases h
  | number =>
    cases other with
    | number => exact .number
    | _ => cases h
  | string =>
    cases other with
    | string => exact .string
    | _ => cases h
  | @array elements helements ih =>
    obtain ⟨others, rfl, hpairs⟩ := sameUpTo_array h
    refine .array fun element helement => ?_
    obtain ⟨value, hvalue, hsame⟩ := exists_of_mem_forall₂_right hpairs helement
    exact ih value hvalue hsame
  | @object members nodup hmembers ih =>
    obtain ⟨others, rfl, -⟩ := sameUpTo_object h
    have hrelate := same_object.mp h
    have hperm := perm_names_of_relate nodup hrelate
    have nodup' := hperm.nodup_iff.mp nodup
    refine .object nodup' fun entry hentry => ?_
    have hname := (relate_iff_lookup nodup nodup').mp hrelate entry.1
    rw [lookup_of_mem nodup' hentry] at hname
    obtain ⟨value, hvalue⟩ := exists_lookup (hperm.mem_iff.mpr (mem_names_of_mem hentry))
    rw [hvalue] at hname
    exact ih (entry.1, value) (mem_of_lookup hvalue) hname

theorem Json.kind_eq_of_same {value other : Json} (h : value.same other = true) :
    value.kind = other.kind := by
  cases value with
  | number number =>
    cases other with
    | number number' =>
      show number.kind = number'.kind
      rw [Number.kind, Number.kind, Number.isWhole_eq_of_same h]
    | _ => cases h
  | _ => cases other <;> first | rfl | cases h

theorem Json.isNull_eq_of_same {value other : Json} (h : value.same other = true) :
    value.isNull = other.isNull := by
  cases value <;> cases other <;> first | rfl | cases h

/-! ### Lists of equal schemas -/

namespace Schema

variable {schemas others : List Schema}

/-- Tidy schemas are equal if schemas that are equal to them are. -/
theorem same_eq_of_same {a a' b b' : Schema} (tidy : a.Tidy) (tidy' : a'.Tidy)
    (hab : a.same b = true) (hab' : a'.same b' = true) : a.same a' = b.same b' := by
  refine Bool.eq_iff_iff.mpr ⟨fun h => ?_, fun h => ?_⟩
  · exact same_trans (same_trans (tidy.same_symm hab) h) hab'
  · exact same_trans (same_trans hab h) (tidy'.same_symm hab')

/-- The first schemas are tidy, and the second ones are equal to them one by one. -/
def Paired (schemas others : List Schema) : Prop :=
  List.Forall₂ (fun a b => a.Tidy ∧ a.same b = true) schemas others

theorem Paired.dedup (paired : Paired schemas others) : Paired (dedup schemas) (dedup others) :=
  forall₂_firstsBy paired fun _ _ _ _ hab hab' => same_eq_of_same hab.1 hab'.1 hab.2 hab'.2

theorem Paired.widened (paired : Paired schemas others) :
    Paired (widened schemas) (widened others) := by
  -- equal schemas are both numbers or both not, so the fronts end at one place
  obtain ⟨htake, hdrop⟩ := forall₂_takeWhile_dropWhile paired fun _ _ hab =>
    isNumeric_eq_of_same hab.2
  refine List.rel_append ?_ hdrop
  have hany : ∀ type, ((schemas.takeWhile isNumeric).any fun schema => schema.isType type)
      = (others.takeWhile isNumeric).any fun schema => schema.isType type := fun type =>
    any_eq_of_forall₂ htake fun _ _ hab => isType_eq_of_same hab.2 type
  unfold widenedNumbers
  rw [hany, hany]
  split
  · have tidy : (typed .number).Tidy := (emitted_simple .number none none).tidy
    exact .cons ⟨tidy, tidy.same_self⟩ .nil
  · exact htake

theorem Paired.choice (paired : Paired schemas others) :
    (choice schemas).same (choice others) = true := by
  obtain ⟨schema, rfl, heq⟩ | ⟨hlength, heq⟩ := choice_cases schemas
  · cases paired with
    | cons hhead htail =>
      cases htail
      exact hhead.2
  · have hchoice : Schema.choice others = oneOf others := by
      obtain ⟨other, rfl, -⟩ | ⟨-, hchoice⟩ := choice_cases others
      · exact absurd paired.length_eq hlength
      · exact hchoice
    rw [heq, hchoice, ← equal_ordered, equal_oneOf]
    refine relateListed_of_relateList (relateList_iff.mpr ?_)
    rw [equal_ordered]
    exact List.Forall₂.imp (fun _ _ hab => hab.2) paired

end Schema

/-! ### Listed values -/

namespace Refinement

/-- Of values that are equal one by one, those that are listed for one key are equal. -/
theorem same_of_key {values others : List Json}
    (pairs : List.Forall₂ (fun a b => a.same b = true) values others)
    (hvalues : ∀ value ∈ values, (value.isString || value.isNumber) = true)
    (hothers : ∀ value ∈ others, (value.isString || value.isNumber) = true) :
    ∀ a ∈ firstsBy sameValue values, ∀ b ∈ firstsBy sameValue others, key a = key b →
      a.same b = true := by
  intro a ha b hb hkey
  have hlistable : List.Forall₂ (fun a b => a.same b = true
      ∧ (a.isString || a.isNumber) = true ∧ (b.isString || b.isNumber) = true) values others :=
    forall₂_imp_of_mem pairs fun a ha b hb hab => ⟨hab, hvalues a ha, hothers b hb⟩
  -- the values that come first for their key do so at the same places
  have hfirsts := forall₂_firstsBy hlistable fun a a' b b' hab hab' => Bool.eq_iff_iff.mpr <| by
    rw [sameValue_iff_key hab.2.1 hab'.2.1, sameValue_iff_key hab.2.2 hab'.2.2,
      key_eq_of_same hab.1, key_eq_of_same hab'.1]
  obtain ⟨found, hfound, hsame, -⟩ := exists_of_mem_forall₂ hfirsts ha
  have heq := (listed_firstsBy hothers).eq_of_key hfound hb
    ((key_eq_of_same hsame).symm.trans hkey)
  rwa [← heq]

end Refinement

namespace Inferrer

open Schema Refinement

variable {config : InferenceConfig} {clockMs clockMs' : Int} {inferrer inferrer' : Inferrer}

/-! ### Members -/

section Members

variable {members others : Members Json}

theorem mem_names_filter (nodup : (names members).Nodup) {p : String × Json → Bool}
    {name : String} : name ∈ names (members.filter p) ↔
      ∃ value, members.lookup name = some value ∧ p (name, value) = true := by
  constructor
  · intro h
    obtain ⟨⟨key, value⟩, hentry, rfl⟩ := List.mem_map.mp h
    obtain ⟨hmem, hp⟩ := List.mem_filter.mp hentry
    exact ⟨value, lookup_of_mem nodup hmem, hp⟩
  · rintro ⟨value, hvalue, hp⟩
    exact mem_names_of_mem (List.mem_filter.mpr ⟨mem_of_lookup hvalue, hp⟩)

/-- Objects have equal schemas if equal values have. -/
theorem same_infer_object_iff (nodup : (names members).Nodup) (nodup' : (names others).Nodup)
    (h : (Json.object members).same (.object others) = true) :
    (inferrer.infer (.object members)).same (inferrer.infer (.object others)) = true ↔
      ∀ name, relateOption (fun a b => (inferrer.infer a).same (inferrer.infer b))
        (members.lookup name) (others.lookup name) = true := by
  have hlookup := (relate_iff_lookup nodup nodup').mp (Json.same_object.mp h)
  -- the required names are sorted, so it is enough that they are the same ones
  have hrequired : sortedNames (names (members.filter fun member => !member.2.isNull))
      = sortedNames (names (others.filter fun member => !member.2.isNull)) := by
    refine sortedNames_eq_of_perm ((List.perm_ext_iff_of_nodup ?_ ?_).mpr fun name => ?_)
    · exact nodup.sublist (List.filter_sublist.map _)
    · exact nodup'.sublist (List.filter_sublist.map _)
    · rw [mem_names_filter nodup, mem_names_filter nodup']
      have hname := hlookup name
      cases ha : members.lookup name with
      | none =>
        cases hb : others.lookup name with
        | none => rfl
        | some b =>
          rw [ha, hb] at hname
          cases hname
      | some a =>
        rw [ha] at hname
        obtain ⟨b, hb, hab⟩ := relateOption_some hname
        simp only [hb, Option.some.injEq, exists_eq_left', Json.isNull_eq_of_same hab]
  rw [infer_object, infer_object, ← equal_ordered, equal_objectSchema, hrequired, beq_self_eq_true,
    Bool.true_and, relate_iff_lookup (by rwa [names_mapMembers]) (by rwa [names_mapMembers])]
  refine forall_congr' fun name => ?_
  rw [lookup_mapMembers, lookup_mapMembers, relateOption_map]
  cases members.lookup name <;> cases others.lookup name <;> rfl

/-- What is found under a name in equal objects with equal schemas. -/
theorem rel_lookup (unique : (Json.object members).UniqueNames)
    (h : (Json.object members).same (.object others) = true)
    (hinfer : (inferrer.infer (.object members)).same (inferrer.infer (.object others)) = true)
    (name : String) :
    Option.Rel (fun a b => a.same b = true ∧ (inferrer.infer a).same (inferrer.infer b) = true)
      (members.lookup name) (others.lookup name) := by
  have nodup := unique.nodup
  have nodup' := (unique.of_same h).nodup
  have hsame := (relate_iff_lookup nodup nodup').mp (Json.same_object.mp h) name
  have hschema := (same_infer_object_iff nodup nodup' h).mp hinfer name
  cases ha : members.lookup name with
  | none =>
    rw [ha] at hsame
    cases hb : others.lookup name with
    | none => exact .none
    | some b =>
      rw [hb] at hsame
      cases hsame
  | some a =>
    rw [ha] at hsame hschema
    obtain ⟨b, hb, hab⟩ := relateOption_some hsame
    rw [hb] at hschema ⊢
    exact .some ⟨hab, hschema⟩

end Members

/-! ### Arrays of objects -/

section Objects

variable {objects objects' : List (Members Json)}

/-- Two values are equal and have equal schemas. -/
def Agree (inferrer : Inferrer) (value other : Json) : Prop :=
  value.same other = true ∧ (inferrer.infer value).same (inferrer.infer other) = true

theorem forall₂_observed (unique : ∀ members ∈ objects, (Json.object members).UniqueNames)
    (pairs : List.Forall₂ (fun members others =>
      inferrer.Agree (.object members) (.object others)) objects objects') (name : String) :
    List.Forall₂ inferrer.Agree (observed name (objects.map .object))
      (observed name (objects'.map .object)) := by
  have hpairs := forall₂_imp_of_mem pairs fun members hmembers others _ hagree =>
    rel_lookup (unique members hmembers) hagree.1 hagree.2 name
  rw [observed, observed, List.filterMap_map, List.filterMap_map]
  exact List.rel_filterMap (fun _ _ hrel => hrel) hpairs

theorem paired_infer (hconfig : ofConfig config clockMs = .ok inferrer) {values others : List Json}
    (unique : ∀ value ∈ values, value.UniqueNames)
    (agree : List.Forall₂ inferrer.Agree values others) :
    Paired (values.map inferrer.infer) (others.map inferrer.infer) := by
  refine List.forall₂_map_left_iff.mpr (List.forall₂_map_right_iff.mpr ?_)
  refine forall₂_imp_of_mem agree fun value hvalue other _ hagree => ⟨?_, hagree.2⟩
  exact (emitted_infer hconfig (unique value hvalue)).tidy

/-- A property whose values are equal one by one has equal schemas. -/
theorem same_refinedSchema (hconfig : ofConfig config clockMs = .ok inferrer)
    (unique : ∀ members ∈ objects, (Json.object members).UniqueNames)
    (hlength : objects.length = objects'.length) {name : String}
    (nonempty : observed name (objects.map .object) ≠ [])
    (agree : List.Forall₂ inferrer.Agree (observed name (objects.map .object))
      (observed name (objects'.map .object))) :
    (inferrer.refinedSchema objects name).same (inferrer.refinedSchema objects' name) = true := by
  have uniqueValues : ∀ value ∈ observed name (objects.map .object), value.UniqueNames :=
    fun value => uniqueNames_of_mem_observed unique
  have pairs : List.Forall₂ (fun a b => a.same b = true) (observed name (objects.map .object))
      (observed name (objects'.map .object)) :=
    agree.imp fun _ _ => And.left
  have hschema : (inferrer.propertySchema (observed name (objects.map .object))).same
      (inferrer.propertySchema (observed name (objects'.map .object))) = true :=
    (paired_infer hconfig uniqueValues agree).widened.dedup.choice
  rcases same_refine_or_listed hconfig (emitted_propertySchema hconfig nonempty uniqueValues)
    ⟨by simpa using hlength, .of_forall₂ pairs⟩ hschema with h | ⟨type, heq, heq'⟩
  · exact h
  · rw [refinedSchema, refinedSchema, heq, heq']
    have hlistable := List.rel_filter (fun _ _ hab =>
      Bool.eq_iff_iff.mp (isListable_eq_of_same hab)) pairs
    exact same_listed (.of_forall₂ pairs) (same_of_key hlistable
      (fun value hvalue => (List.mem_filter.mp hvalue).2)
      fun value hvalue => (List.mem_filter.mp hvalue).2)

/-- Objects that are equal one by one have equal schemas for all of them. -/
theorem same_unify (hconfig : ofConfig config clockMs = .ok inferrer)
    (unique : ∀ members ∈ objects, (Json.object members).UniqueNames)
    (pairs : List.Forall₂ (fun members others =>
      inferrer.Agree (.object members) (.object others)) objects objects') :
    (inferrer.unify ((objects.map .object).map inferrer.infer) (objects.map .object)).same
      (inferrer.unify ((objects'.map .object).map inferrer.infer) (objects'.map .object))
        = true := by
  have hobserved := forall₂_observed unique pairs
  have nodup' : ∀ others ∈ objects', (names others).Nodup := by
    intro others hothers
    obtain ⟨members, hmembers, hagree⟩ := exists_of_mem_forall₂_right pairs hothers
    exact ((unique members hmembers).of_same hagree.1).nodup
  rw [← equal_ordered, equal_unify_iff ⟨pairs.length_eq, fun name => (hobserved name).length_eq⟩
    (fun members hmembers => (unique members hmembers).nodup) nodup', equal_ordered]
  intro name nonempty
  exact same_refinedSchema hconfig unique pairs.length_eq nonempty (hobserved name)

/-! ### Arrays -/

theorem exists_objects_of_agree {values : List Json}
    (agree : List.Forall₂ inferrer.Agree (objects.map .object) values) :
    ∃ objects', values = objects'.map Json.object ∧ List.Forall₂ (fun members others =>
      inferrer.Agree (.object members) (.object others)) objects objects' := by
  have hkind : ∀ value ∈ values, value.kind = .object := by
    intro value hvalue
    obtain ⟨sample, hsample, hagree⟩ := exists_of_mem_forall₂_right agree hvalue
    obtain ⟨members, -, rfl⟩ := List.mem_map.mp hsample
    exact (Json.kind_eq_of_same hagree.1).symm
  obtain ⟨objects', rfl⟩ := Json.exists_objects hkind
  exact ⟨objects', rfl, List.forall₂_map_left_iff.mp (List.forall₂_map_right_iff.mp agree)⟩

/-- Elements that are equal one by one have equal schemas for all of them, in each of the three ways
in which these are made. -/
theorem same_sharedSchema (hconfig : ofConfig config clockMs = .ok inferrer)
    {first first' : Json} {rest rest' : List Json}
    (unique : ∀ element ∈ first :: rest, element.UniqueNames)
    (agree : List.Forall₂ inferrer.Agree (first :: rest) (first' :: rest')) :
    (inferrer.sharedSchema first rest).same (inferrer.sharedSchema first' rest') = true := by
  have hfirst : inferrer.Agree first first' := (List.forall₂_cons.mp agree).1
  have hkinds : (∀ element ∈ first :: rest, element.kind = first.kind) ↔
      ∀ element ∈ first' :: rest', element.kind = first'.kind := by
    have hall := (Rearranged.of_forall₂ (agree.imp fun _ _ => And.left)).all_eq
      (p := fun element => element.kind == first.kind) fun a b hab => by
        rw [Json.kind_eq_of_same hab]
    rw [Bool.eq_iff_iff, List.all_eq_true, List.all_eq_true, Json.kind_eq_of_same hfirst.1] at hall
    rw [Json.kind_eq_of_same hfirst.1]
    simpa only [beq_iff_eq] using hall
  -- equal elements have the same type, so both arrays are treated in the same of the three ways
  rcases elements_cases first rest with ⟨objects, hobjects⟩ | ⟨hsame, hobject⟩ | hmixed
  · rw [hobjects] at agree unique
    obtain ⟨objects', hobjects', pairs⟩ := exists_objects_of_agree agree
    rw [sharedSchema_objects inferrer hobjects, sharedSchema_objects inferrer hobjects']
    exact same_unify hconfig (List.forall_mem_map.mp unique) pairs
  · rw [sharedSchema_same inferrer hsame hobject, sharedSchema_same inferrer (hkinds.mp hsame)
      (Json.kind_eq_of_same hfirst.1 ▸ hobject)]
    exact hfirst.2
  · have hmixed' : ∃ element ∈ first' :: rest', element.kind ≠ first'.kind := by
      by_contra hnone
      push Not at hnone
      obtain ⟨element, helement, hne⟩ := hmixed
      exact hne (hkinds.mpr hnone element helement)
    rw [sharedSchema_mixed inferrer hmixed, sharedSchema_mixed inferrer hmixed']
    exact (paired_infer hconfig unique agree).dedup.choice

end Objects

/-! ### Equal values -/

theorem same_infer_self (hconfig : ofConfig config clockMs = .ok inferrer) {value : Json}
    (unique : value.UniqueNames) : (inferrer.infer value).same (inferrer.infer value) = true :=
  (emitted_infer hconfig unique).tidy.same_self

/-- Equal values have equal schemas. -/
theorem same_infer (hconfig : ofConfig config clockMs = .ok inferrer) {value other : Json}
    (unique : value.UniqueNames) (h : value.same other = true) :
    (inferrer.infer value).same (inferrer.infer other) = true := by
  induction unique generalizing other with
  | null =>
    cases other with
    | null => exact same_infer_self hconfig .null
    | _ => cases h
  | bool =>
    cases other with
    | bool => exact same_infer_self hconfig .bool
    | _ => cases h
  | @number number =>
    cases other with
    | number number' =>
      have hkind : number.kind = number'.kind := Json.kind_eq_of_same h
      show (typed number.kind).same (typed number'.kind) = true
      rw [← hkind]
      exact same_infer_self hconfig .number
    | _ => cases h
  | @string text =>
    cases other with
    | string text' =>
      obtain rfl : text = text' := beq_iff_eq.mp h
      exact same_infer_self hconfig .string
    | _ => cases h
  | @array elements helements ih =>
    obtain ⟨others, rfl, pairs⟩ := Json.sameUpTo_array h
    -- the elements agree by induction
    have agree : List.Forall₂ inferrer.Agree elements others :=
      forall₂_imp_of_mem pairs fun element helement other _ hsame =>
        ⟨hsame, ih element helement hsame⟩
    cases agree with
    | nil => exact same_infer_self hconfig (.array helements)
    | cons hfirst hrest =>
      rw [infer_cons, infer_cons, ← equal_ordered, equal_array, equal_ordered, Bool.and_eq_true]
      exact ⟨rfl, same_sharedSchema hconfig helements (.cons hfirst hrest)⟩
  | @object members nodup hmembers ih =>
    obtain ⟨others, rfl, -⟩ := Json.sameUpTo_object h
    have nodup' := ((Json.UniqueNames.object nodup hmembers).of_same h).nodup
    have hlookup := (relate_iff_lookup nodup nodup').mp (Json.same_object.mp h)
    refine (same_infer_object_iff nodup nodup' h).mpr fun name => ?_
    refine relateOption_imp (fun a ha b hab => ?_) (hlookup name)
    exact ih (name, a) (mem_of_lookup ha) hab

/-! ### Documents -/

theorem isSome_eq_of_relate {α β : Type} {related : α → β → Bool} {a : Option α} {b : Option β}
    (h : relateOption related a b = true) : a.isSome = b.isSome := by
  cases a <;> cases b <;> first | rfl | cases h

/-- Documents of one heading are equal if their contents are. -/
theorem same_headed {schemaUri title description : Option String} {type : TypeName}
    {required : Option (List String)} {min max min' max' : Option Number}
    {properties properties' : Option (Members Schema)} {items items' : Option (Items Schema)}
    (hmin : relateOption Number.same min min' = true)
    (hmax : relateOption Number.same max max' = true)
    (hproperties : relateOption (Members.relate same) properties properties' = true)
    (hitems : relateOption (Items.relate same) items items' = true) :
    (object
        { schemaUri := schemaUri, title := title, description := description
          type := some (.single type), required := required, minItems := min, maxItems := max }
        { properties := properties, items := items }).same
      (object
        { schemaUri := schemaUri, title := title, description := description
          type := some (.single type), required := required, minItems := min', maxItems := max' }
        { properties := properties', items := items' }) = true := by
  refine same_object_iff.mpr ⟨fun k => ?_, rfl⟩
  cases k with
  | number k =>
    cases k with
    | minItems => exact hmin
    | maxItems => exact hmax
    | _ => rfl
  | map k =>
    cases k with
    | properties => exact hproperties
    | _ => rfl
  | items => exact hitems
  | type => exact beq_self_eq_true type
  | required => exact (relateOption_beq _ _).trans (beq_self_eq_true required)
  | text k =>
    refine (relateOption_beq _ _).trans ?_
    cases k <;> first | rfl | exact beq_self_eq_true _
  | list k => cases k <;> rfl
  | single k => cases k <;> rfl
  | _ => rfl

/-- Equal schemas make equal documents. -/
theorem same_documentOf (config : InferenceConfig) {facets : Facets} {parts : Parts Schema}
    {other : Schema} (h : (object facets parts).same other = true) :
    (documentOf config (object facets parts)).same (documentOf config other) = true := by
  obtain ⟨facets', parts', rfl, -⟩ := same_object h
  have hfields := (same_object_iff.mp h).1
  have hrequired : facets.required = facets'.required :=
    beq_iff_eq.mp ((relateOption_beq _ _).symm.trans (hfields .required))
  have hmin : relateOption Number.same facets.minItems facets'.minItems = true :=
    hfields (.number .minItems)
  have hmax : relateOption Number.same facets.maxItems facets'.maxItems = true :=
    hfields (.number .maxItems)
  have hproperties : relateOption (Members.relate same) parts.properties parts'.properties = true :=
    hfields (.map .properties)
  have hitems : relateOption (Items.relate same) parts.items parts'.items = true := hfields .items
  have htype : relateOption TypeSpec.same facets.type facets'.type = true := hfields .type
  unfold documentOf
  dsimp only [facets?, parts?, Option.getD_some]
  rw [isType_eq_of_same h .object, isType_eq_of_same h .array, isSome_eq_of_relate hproperties,
    isSome_eq_of_relate hitems, isSome_eq_of_relate htype, hrequired]
  -- the three forms of a document are told apart by what equal schemas share
  by_cases hobject : ((object facets' parts').isType .object || parts'.properties.isSome) = true
  · rw [if_pos hobject, if_pos hobject]
    exact same_headed rfl rfl hproperties rfl
  · rw [if_neg hobject, if_neg hobject]
    by_cases harray : ((object facets' parts').isType .array || parts'.items.isSome) = true
    · rw [if_pos harray, if_pos harray]
      exact same_headed hmin hmax rfl hitems
    · rw [if_neg harray, if_neg harray]
      by_cases htyped : facets'.type.isSome = true
      · rw [if_pos htyped, if_pos htyped]
        refine same_headed rfl rfl ?_ rfl
        exact Members.relate_iff.mpr ⟨rfl, by simpa using h⟩
      · rw [if_neg htyped, if_neg htyped]
        exact same_headed rfl rfl rfl rfl

/-- With a fixed present the clock does not matter. -/
theorem ofConfig_eq_of_fixed (fixed : config.referenceTimeMs.isSome = true) :
    ofConfig config clockMs = ofConfig config clockMs' := by
  obtain ⟨now, hnow⟩ := Option.isSome_iff_exists.mp fixed
  unfold ofConfig
  rw [hnow]
  rfl

theorem eq_of_fixed (fixed : config.referenceTimeMs.isSome = true)
    (hconfig : ofConfig config clockMs = .ok inferrer)
    (hconfig' : ofConfig config clockMs' = .ok inferrer') : inferrer = inferrer' := by
  rw [ofConfig_eq_of_fixed fixed, hconfig'] at hconfig
  exact (Except.ok.inj hconfig).symm

/-- Inference does not depend on the order of keys: equal values have equal schemas and equal
documents, whenever they are inferred. -/
theorem same_infer_and_document (fixed : config.referenceTimeMs.isSome = true)
    (hconfig : ofConfig config clockMs = .ok inferrer)
    (hconfig' : ofConfig config clockMs' = .ok inferrer') {value other : Json}
    (unique : value.UniqueNames) (h : value.same other = true) :
    (inferrer.infer value).same (inferrer'.infer other) = true
      ∧ (inferrer.document value).same (inferrer'.document other) = true := by
  obtain rfl := eq_of_fixed fixed hconfig hconfig'
  have hsame := same_infer hconfig unique h
  refine ⟨hsame, ?_⟩
  rw [document, document, (plain_infer inferrer value).asObject_eq,
    (plain_infer inferrer other).asObject_eq]
  cases hroot : inferrer.infer value with
  | boolean accepts =>
    have hplain := plain_infer inferrer value
    rw [hroot] at hplain
    cases hplain
  | object facets parts => exact same_documentOf _ (hroot ▸ hsame)

/-- The same objects with the members of the first in another order. -/
def reorderedSamples : Json :=
  .array
    [.object [("a", oneValue), ("b", .null)], .object [("a", .array [])], .object [("a", .null)]]

theorem same_infer_and_document_reordered :
    ∃ inferrer inferrer', ofConfig openConfig 0 = .ok inferrer
      ∧ ofConfig openConfig 1 = .ok inferrer'
      ∧ mixedSamples.UniqueNames ∧ mixedSamples.same reorderedSamples = true
      ∧ (inferrer.infer mixedSamples).same (inferrer'.infer reorderedSamples) = true
      ∧ (inferrer.document mixedSamples).same (inferrer'.document reorderedSamples) = true := by
  obtain ⟨inferrer, hconfig⟩ := ofConfig_open
  have fixed : openConfig.referenceTimeMs.isSome = true := rfl
  have hconfig' : ofConfig openConfig 1 = .ok inferrer :=
    (ofConfig_eq_of_fixed fixed).trans hconfig
  have hsame : mixedSamples.same reorderedSamples = true := by rfl
  exact ⟨inferrer, inferrer, hconfig, hconfig', mixedSamples_unique, hsame,
    same_infer_and_document fixed hconfig hconfig' mixedSamples_unique hsame⟩

end Inferrer

end JsonShape
