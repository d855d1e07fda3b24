import JsonShape.Proofs.InferredForm
import JsonShape.Proofs.WellFormedness

/-!
# Values and their own schemas

A value need not be accepted by the schema that is inferred from it. `Inferrer.Gap` lists what goes
wrong: an array of arrays takes the schema of the first, alternatives may overlap, and a listed
value may differ from one that was taken for the same. Each of these spoils the schema
(`Inferrer.not_holds_of_gap`), and nothing else does (`Inferrer.holds_of_not_gap`).

Main statement: `Inferrer.accepts_infer_iff`, the schema of a value accepts the value exactly if
there is no such gap in it.
-/

namespace JsonShape

open Members Schema Refinement

/-- How many schemas of a list accept a value. -/
def Schema.acceptCount (schemas : List Schema) (value : Json) : Nat :=
  (schemas.filter fun schema => schema.toJson.accepts value).length

namespace Inferrer

variable {config : InferenceConfig} {clockMs : Int} {inferrer : Inferrer}

/-- What keeps a value from being accepted by its own schema. -/
inductive Gap (inferrer : Inferrer) : Json → Prop
  /-- The value of a property has a gap. -/
  | member {members : Members Json} {name value} : (name, value) ∈ members → Gap inferrer value →
      Gap inferrer (.object members)
  /-- The first array speaks for all, and its schema does not accept one of them. -/
  | nested {first rest element} : (∀ element ∈ first :: rest, element.kind = .array) →
      element ∈ first :: rest → (inferrer.infer first).toJson.accepts element = false →
      Gap inferrer (.array (first :: rest))
  /-- The alternatives overlap, or the own alternative of an element does not accept it. -/
  | choice {first rest element} : (∃ other ∈ first :: rest, other.kind ≠ first.kind) →
      element ∈ first :: rest →
      acceptCount (dedup ((first :: rest).map inferrer.infer)) element ≠ 1 →
      Gap inferrer (.array (first :: rest))
  /-- The same for the alternatives of a property that is not refined. -/
  | property {objects name value schema} : Noted objects name value →
      (inferrer.mergedProperties objects).lookup name = some schema →
      inferrer.refine (objects.map .object) name schema = schema →
      acceptCount schema.alternatives value ≠ 1 → Gap inferrer (.array (objects.map .object))
  /-- The value of a property is not listed, as another one was taken for the same. -/
  | unlisted {objects name value schema type values} : Noted objects name value →
      (inferrer.mergedProperties objects).lookup name = some schema →
      inferrer.refine (objects.map .object) name schema = listedSchema type values →
      (∀ listed ∈ values, listed.equals value = false) → Gap inferrer (.array (objects.map .object))

/-! ### The strict reading of the forms of inferred schemas -/

theorem acceptCount_eq {schemas : List Schema} (h : ∀ schema ∈ schemas, schema.Emitted)
    (value : Json) :
    acceptCount schemas value = (schemas.filter (holds .strict · value)).length := by
  unfold acceptCount
  congr 1
  refine List.filter_congr fun schema hschema => ?_
  exact Bool.eq_iff_iff.mpr (accepts_iff_holds (h schema hschema))

theorem chooses_strict {alternatives : List Schema} {value : Json} :
    Reading.strict.chooses (alternatives.map (holds .strict · value)) = true ↔
      (alternatives.filter (holds .strict · value)).length = 1 := by
  show ((alternatives.map (holds .strict · value)).count true == 1) = true ↔ _
  rw [beq_iff_eq, List.count, List.countP_map, List.countP_eq_length_filter]
  refine Eq.congr_left (congrArg List.length (List.filter_congr fun schema _ => ?_))
  exact beq_true _

theorem length_filter_singleton {schema : Schema} {value : Json} :
    ([schema].filter (holds .strict · value)).length = 1 ↔ schema.holds .strict value = true := by
  cases h : schema.holds .strict value <;> simp [h]

/-- A schema that was merged holds of a value if one of its alternatives does, and no other. -/
theorem holds_mergeable {unmixed : Schema → Prop} (isUnmixed : Unmixed unmixed) {schema : Schema}
    (h : schema.Mergeable unmixed) {value : Json} : schema.holds .strict value = true ↔
      (schema.alternatives.filter (holds .strict · value)).length = 1 := by
  rcases h with h | ⟨alternatives, rfl, _, _⟩
  · rw [(isUnmixed.plain h).alternatives_eq, length_filter_singleton]
  · rw [holds_oneOf, chooses_strict]
    rfl

theorem holds_items {reading : Reading} {schema : Schema} {elements : List Json} :
    (Schema.object { type := some (.single .array), minItems := some 0 }
      { items := some (.single schema) }).holds reading (.array elements) = true ↔
      ∀ element ∈ elements, schema.holds reading element = true := by
  rw [holds_object, admits_facets, admits_parts]
  constructor
  · intro h
    exact h.2.2.2 elements schema rfl rfl
  · intro h
    refine ⟨⟨rfl, rfl, ?_, ?_⟩, ?_, ?_, ?_⟩
    · rintro _ ⟨⟩
    · rintro _ ⟨⟩
      refine ⟨?_, rfl⟩
      rw [Option.all_some, Number.units_zero, decide_eq_true_eq]
      exact Int.mul_nonneg (Int.natCast_nonneg _) (Int.le_of_lt Binary64.one_pos)
    · rintro _ ⟨⟩
    · rintro _ ⟨⟩
    · rintro _ _ ⟨⟩ ⟨⟩
      exact h

/-- A schema of a type other than arrays and objects holds of all values of its type. -/
theorem holds_of_kind (inferrer : Inferrer) {reading : Reading} {first element : Json}
    (hkind : element.kind = first.kind) (harray : first.kind ≠ .array)
    (hobject : first.kind ≠ .object) : (inferrer.infer first).holds reading element = true := by
  have hvalue : first.kind.hasValue element = true := hkind ▸ element.hasValue_kind
  cases first with
  | array _ => exact absurd rfl harray
  | object _ => exact absurd rfl hobject
  | number number => exact holds_simple.mpr hvalue
  | _ => exact holds_simple.mpr hvalue

/-! ### Types of merged properties -/

/-- The schema has one type, and the value is of that type. -/
def HasType (schema : Schema) (value : Json) : Prop :=
  ∃ type, schema.isType type = true ∧ type.hasValue value = true

theorem isType_of_same {schema other : Schema} {type : TypeName} (hsame : schema.same other = true)
    (h : other.isType type = true) : schema.isType type = true := by
  rwa [isType_eq_of_same hsame]

theorem isType_unique {schema : Schema} {type other : TypeName} (h : schema.isType type = true)
    (h' : schema.isType other = true) : type = other := by
  cases schema with
  | boolean _ => cases h
  | object facets parts =>
    have htype : facets.type.any (·.is type) = true := h
    have hother : facets.type.any (·.is other) = true := h'
    cases hspec : facets.type with
    | none =>
      rw [hspec] at htype
      cases htype
    | some spec =>
      rw [hspec] at htype hother
      cases spec with
      | single found =>
        have hfound : found = type := beq_iff_eq.mp htype
        have hfound' : found = other := beq_iff_eq.mp hother
        rw [← hfound, hfound']
      | _ => cases htype

theorem coverable_hasType : Coverable HasType where
  same := by
    rintro schema other value hsame ⟨type, htype, hvalue⟩
    exact ⟨type, isType_of_same hsame htype, hvalue⟩
  widen := by
    rintro schema value hnumeric ⟨type, htype, hvalue⟩
    refine ⟨.number, rfl, ?_⟩
    -- a schema has one type only, so this one is a type of numbers
    have hnumber : type = .integer ∨ type = .number :=
      hnumeric.imp (isType_unique htype) (isType_unique htype)
    cases value with
    | number _ => rfl
    | _ => rcases hnumber with rfl | rfl <;> cases hvalue

theorem hasType_infer (inferrer : Inferrer) (value : Json) : HasType (inferrer.infer value) value :=
  ⟨value.kind, by rw [isType_infer]; exact beq_self_eq_true _, value.hasValue_kind⟩

/-! ### Refined properties -/

variable {objects : List (Members Json)}

theorem mem_observed_of_noted (unique : ∀ members ∈ objects, (names members).Nodup)
    {name : String} {value : Json} (hnoted : Noted objects name value) :
    value ∈ observed name (objects.map .object) := by
  obtain ⟨members, hmembers, hmem⟩ := hnoted
  refine mem_observed.mpr ⟨.object members, List.mem_map_of_mem hmembers, ?_⟩
  exact lookup_of_mem (unique members hmembers) hmem

/-- When a refined property holds of an observed value. -/
theorem holds_refine_iff (hconfig : ofConfig config clockMs = .ok inferrer)
    (unique : ∀ members ∈ objects, (names members).Nodup)
    (emitted : ∀ name value, Noted objects name value → (inferrer.infer value).Emitted)
    {name : String} {value : Json} (hnoted : Noted objects name value) {schema : Schema}
    (hlookup : (inferrer.mergedProperties objects).lookup name = some schema) :
    let refined := inferrer.refine (objects.map .object) name schema
    refined.holds .strict value = true ↔
      ¬ (refined = schema ∧ acceptCount schema.alternatives value ≠ 1)
        ∧ ¬ ∃ type values, refined = listedSchema type values
          ∧ ∀ listed ∈ values, listed.equals value = false := by
  intro refined
  have hgathers := gathers_mergedProperties unmixed_emitted coverable_hasType
    fun name value hnoted => ⟨plain_infer inferrer value, emitted name value hnoted⟩
  have hmergeable := hgathers.mergeable name schema hlookup
  have hcount : schema.holds .strict value = true ↔ acceptCount schema.alternatives value = 1 := by
    rw [holds_mergeable unmixed_emitted hmergeable, acceptCount_eq]
    exact fun part hpart => (hmergeable.of_mem unmixed_emitted hpart).2
  -- from here on only the four outcomes of refining count, not how they came about
  have hobserved := mem_observed_of_noted unique hnoted
  have hrefined : Refined name (objects.map .object) schema refined :=
    refined_refine hconfig _ name schema
  clear_value refined
  constructor
  · intro h
    constructor
    · rintro ⟨rfl, hne⟩
      exact hne (hcount.mp h)
    · rintro ⟨type, values, rfl, hnone⟩
      obtain ⟨listed, hmem, hequals⟩ := isListed_of_holds h
      have hfalse := hnone listed hmem
      rw [show listed.equals value = true from hequals] at hfalse
      cases hfalse
  · rintro ⟨hkept, hlisted⟩
    cases hrefined with
    | kept => exact hcount.mpr (by simpa using hkept)
    | @listed type values limit htype hvalues =>
      obtain ⟨histype, hlistable⟩ := listedType_some htype
      -- the value has the only type of the merged schema, as one of its alternatives has its type
      obtain ⟨found, hfound, alternative, hmem, own, hown, hvalue⟩ := hgathers.covers name value
        ⟨hnoted, hasType_infer inferrer value⟩
      have heq : found = schema := Option.some.inj (hfound.symm.trans hlookup)
      rw [heq, (plain_of_isType unmixed_emitted hmergeable histype).alternatives_eq,
        List.mem_singleton] at hmem
      rw [hmem] at hown
      rw [isType_unique hown histype] at hvalue
      refine (holds_listedSchema hlistable).mpr ⟨hvalue, ?_⟩
      by_contra hnone
      refine hlisted ⟨type, values, rfl, fun listed hin => ?_⟩
      rw [Bool.eq_false_iff]
      exact fun hequals => hnone ⟨listed, hin, hequals⟩
    | tuple hlength => exact holds_tupleSchema (commonLength_some hlength value hobserved)
    | recent hrecent =>
      exact holds_timestampSchema (hasValue_of_isRecent (hrecent value hobserved))

/-- The schema of the elements of an array of objects holds of all of them if each refined property
holds of its observed values. -/
theorem holds_unify_iff (inferrer : Inferrer)
    (unique : ∀ members ∈ objects, (names members).Nodup) :
    (∀ sample ∈ objects.map Json.object,
        (inferrer.unify ((objects.map Json.object).map inferrer.infer)
          (objects.map Json.object)).holds .strict sample = true) ↔
      ∀ name value schema, Noted objects name value →
        (inferrer.mergedProperties objects).lookup name = some schema →
        (inferrer.refine (objects.map .object) name schema).holds .strict value = true := by
  have nodup : (names (inferrer.mergedProperties objects)).Nodup :=
    (gathers_mergedProperties unmixed_plain coverable_true
      fun _ value (_ : Noted objects _ value) => plain_infer inferrer value).nodup
  rw [unify_objects, List.forall_mem_map]
  constructor
  · rintro h name value schema ⟨members, hmembers, hmem⟩ hlookup
    refine (holds_objectSchema.mp (h members hmembers)).2
      (name, inferrer.refine (objects.map .object) name schema) ?_ value
      (lookup_of_mem (unique members hmembers) hmem)
    exact List.mem_map.mpr ⟨(name, schema), mem_of_lookup hlookup, rfl⟩
  · intro h members hmembers
    refine holds_objectSchema.mpr ⟨?_, ?_⟩
    · intro name hname
      exact contains_iff.mp (List.all_eq_true.mp (List.mem_filter.mp hname).2 members hmembers)
    · intro entry hentry value hvalue
      obtain ⟨⟨name, schema⟩, hschema, rfl⟩ := List.mem_map.mp hentry
      exact h name value schema ⟨members, hmembers, mem_of_lookup hvalue⟩
        (lookup_of_mem nodup hschema)

/-! ### The schema of a value and the value -/

theorem nodup_of_uniqueNames {objects : List (Members Json)}
    (h : (Json.array (objects.map .object)).UniqueNames) :
    ∀ members ∈ objects, (names members).Nodup := by
  intro members hmembers
  exact (h.of_mem_array (List.mem_map_of_mem hmembers)).nodup

theorem emitted_of_noted (hconfig : ofConfig config clockMs = .ok inferrer)
    (h : (Json.array (objects.map .object)).UniqueNames) (name : String) (value : Json)
    (hnoted : Noted objects name value) : (inferrer.infer value).Emitted := by
  obtain ⟨members, hmembers, hmem⟩ := hnoted
  have hobject := h.of_mem_array (List.mem_map_of_mem hmembers)
  exact emitted_infer hconfig (hobject.of_mem_object hmem)

theorem holds_infer_object (inferrer : Inferrer) {members : Members Json}
    (nodup : (names members).Nodup) :
    (inferrer.infer (.object members)).holds .strict (.object members) = true ↔
      ∀ member ∈ members, (inferrer.infer member.2).holds .strict member.2 = true := by
  rw [infer_object, holds_objectSchema]
  constructor
  · rintro ⟨_, h⟩ ⟨name, value⟩ hmem
    exact h (name, inferrer.infer value) (mem_mapMembers.mpr ⟨value, hmem, rfl⟩) value
      (lookup_of_mem nodup hmem)
  · intro h
    constructor
    · intro name hname
      exact (List.filter_sublist.map _).subset hname
    · rintro ⟨name, schema⟩ hentry value hvalue
      obtain ⟨own, hown, rfl⟩ := mem_mapMembers.mp hentry
      have heq : own = value := Option.some.inj ((lookup_of_mem nodup hown).symm.trans hvalue)
      rw [← heq]
      exact h (name, own) hown

theorem holds_choice_iff (hconfig : ofConfig config clockMs = .ok inferrer) {elements : List Json}
    (nonempty : elements ≠ []) (unique : ∀ element ∈ elements, element.UniqueNames) {value : Json} :
    (choice (dedup (elements.map inferrer.infer))).holds .strict value = true ↔
      acceptCount (dedup (elements.map inferrer.infer)) value = 1 := by
  have hall : ∀ part ∈ dedup (elements.map inferrer.infer), part.Plain ∧ part.Emitted := by
    intro part hpart
    obtain ⟨element, helement, rfl⟩ := List.mem_map.mp (mem_of_mem_dedup hpart)
    exact ⟨plain_infer inferrer element, emitted_infer hconfig (unique element helement)⟩
  have hne : dedup (elements.map inferrer.infer) ≠ [] :=
    dedup_ne_nil (mt List.map_eq_nil_iff.mp nonempty)
  rw [holds_mergeable unmixed_emitted (mergeable_choice hne hall),
    alternatives_choice fun part hpart => (hall part hpart).1,
    acceptCount_eq fun part hpart => (hall part hpart).2]

theorem holds_infer_objects (inferrer : Inferrer) (nonempty : objects ≠ [])
    (unique : ∀ members ∈ objects, (names members).Nodup) :
    (inferrer.infer (.array (objects.map .object))).holds .strict (.array (objects.map .object))
        = true ↔
      ∀ name value schema, Noted objects name value →
        (inferrer.mergedProperties objects).lookup name = some schema →
        (inferrer.refine (objects.map .object) name schema).holds .strict value = true := by
  rw [infer_objects nonempty, holds_items, holds_unify_iff inferrer unique]

theorem ne_nil_of_noted {name : String} {value : Json} (h : Noted objects name value) :
    objects ≠ [] := by
  obtain ⟨members, hmembers, _⟩ := h
  exact List.ne_nil_of_mem hmembers

theorem not_holds_of_gap (hconfig : ofConfig config clockMs = .ok inferrer) {value : Json}
    (gap : Gap inferrer value) (unique : value.UniqueNames) :
    ¬ (inferrer.infer value).holds .strict value = true := by
  induction gap with
  | @member members name value hmem _ ih =>
    intro h
    cases unique with
    | object nodup hmembers =>
      exact ih (hmembers _ hmem) ((holds_infer_object inferrer nodup).mp h _ hmem)
  | @nested first rest element hkind hmem hrejects =>
    intro h
    cases unique with
    | array helements =>
      have hfirst := hkind first List.mem_cons_self
      have hsame : ∀ element ∈ first :: rest, element.kind = first.kind :=
        fun element helement => (hkind element helement).trans hfirst.symm
      have hobject : first.kind ≠ .object := by
        rw [hfirst]
        exact TypeName.noConfusion
      rw [infer_cons, holds_items, sharedSchema_same inferrer hsame hobject] at h
      have haccepts := (accepts_iff_holds
        (emitted_infer hconfig (helements first List.mem_cons_self))).mpr (h element hmem)
      rw [hrejects] at haccepts
      cases haccepts
  | @choice first rest element hmixed hmem hcount =>
    intro h
    cases unique with
    | array helements =>
      rw [infer_cons, holds_items, sharedSchema_mixed inferrer hmixed] at h
      exact hcount ((holds_choice_iff hconfig (List.cons_ne_nil _ _) helements).mp (h element hmem))
  | @property objects name value schema hnoted hlookup hkept hcount =>
    intro h
    have nodup := nodup_of_uniqueNames unique
    have hholds := (holds_infer_objects inferrer (ne_nil_of_noted hnoted) nodup).mp h
      name value schema hnoted hlookup
    exact ((holds_refine_iff hconfig nodup (emitted_of_noted hconfig unique) hnoted hlookup).mp
      hholds).1 ⟨hkept, hcount⟩
  | @unlisted objects name value schema type values hnoted hlookup hlisted hnone =>
    intro h
    have nodup := nodup_of_uniqueNames unique
    have hholds := (holds_infer_objects inferrer (ne_nil_of_noted hnoted) nodup).mp h
      name value schema hnoted hlookup
    exact ((holds_refine_iff hconfig nodup (emitted_of_noted hconfig unique) hnoted hlookup).mp
      hholds).2 ⟨type, values, hlisted, hnone⟩

theorem holds_of_not_gap (hconfig : ofConfig config clockMs = .ok inferrer) {value : Json}
    (unique : value.UniqueNames) (h : ¬ Gap inferrer value) :
    (inferrer.infer value).holds .strict value = true := by
  induction unique with
  | null => exact holds_simple.mpr rfl
  | bool => exact holds_simple.mpr rfl
  | @number number => exact holds_simple.mpr (Json.hasValue_kind (.number number))
  | string => exact holds_simple.mpr rfl
  | @array elements helements _ =>
    cases elements with
    | nil => rfl
    | cons first rest =>
      rcases elements_cases first rest with ⟨objects, hobjects⟩ | ⟨hsame, hobject⟩ | hmixed
      · -- objects: each observed value has to satisfy its refined property
        rw [hobjects] at h helements ⊢
        have unique := Json.UniqueNames.array helements
        have nodup := nodup_of_uniqueNames unique
        have nonempty : objects ≠ [] := by
          rintro rfl
          cases hobjects
        refine (holds_infer_objects inferrer nonempty nodup).mpr ?_
        intro name value schema hnoted hlookup
        refine (holds_refine_iff hconfig nodup (emitted_of_noted hconfig unique) hnoted
          hlookup).mpr ⟨?_, ?_⟩
        · rintro ⟨hkept, hcount⟩
          exact h (.property hnoted hlookup hkept hcount)
        · rintro ⟨type, values, hlisted, hnone⟩
          exact h (.unlisted hnoted hlookup hlisted hnone)
      · -- one other type: the first speaks for all, which only arrays can get wrong
        rw [infer_cons, holds_items, sharedSchema_same inferrer hsame hobject]
        intro element helement
        by_cases harray : first.kind = .array
        · refine (accepts_iff_holds
            (emitted_infer hconfig (helements first List.mem_cons_self))).mp ?_
          rw [← Bool.not_eq_false]
          intro hrejects
          exact h (.nested (fun element helement => (hsame element helement).trans harray) helement
            hrejects)
        · exact holds_of_kind inferrer (hsame element helement) harray hobject
      · -- different types: each element has to satisfy one alternative alone
        rw [infer_cons, holds_items, sharedSchema_mixed inferrer hmixed]
        intro element helement
        refine (holds_choice_iff hconfig (List.cons_ne_nil _ _) helements).mpr ?_
        by_contra hcount
        exact h (.choice hmixed helement hcount)
  | @object members nodup _ ih =>
    refine (holds_infer_object inferrer nodup).mpr fun member hmember => ?_
    exact ih member hmember fun gap => h (.member hmember gap)

/-- An array has no gap if its elements are all of one type, and neither arrays nor objects. -/
theorem not_gap_of_simple {elements : List Json} {type : TypeName}
    (hkind : ∀ element ∈ elements, element.kind = type) (harray : type ≠ .array)
    (hobject : type ≠ .object) : ¬ Gap inferrer (.array elements) := by
  have noObjects : ∀ {objects : List (Members Json)} {name value},
      Noted objects name value → elements ≠ objects.map .object := by
    rintro objects name value ⟨members, hmembers, _⟩ rfl
    exact hobject (hkind _ (List.mem_map_of_mem hmembers)).symm
  -- the gap is taken apart for any value, as an array of objects is no constructor
  generalize hvalue : Json.array elements = value
  intro gap
  cases gap with
  | member => cases hvalue
  | @nested first rest element harrays hmem =>
    cases hvalue
    exact harray ((hkind element hmem).symm.trans (harrays element hmem))
  | @choice first rest element hmixed =>
    cases hvalue
    obtain ⟨other, hother, hne⟩ := hmixed
    exact hne ((hkind other hother).trans (hkind first List.mem_cons_self).symm)
  | property hnoted =>
    exact noObjects hnoted (Json.array.inj hvalue)
  | unlisted hnoted =>
    exact noObjects hnoted (Json.array.inj hvalue)

/-- A value is accepted by its own schema exactly if it has no gap. -/
theorem accepts_infer_iff (hconfig : ofConfig config clockMs = .ok inferrer) {value : Json}
    (unique : value.UniqueNames) :
    (inferrer.infer value).toJson.accepts value = true ↔ ¬ Gap inferrer value := by
  rw [accepts_iff_holds (emitted_infer hconfig unique)]
  constructor
  · exact fun h gap => not_holds_of_gap hconfig gap unique h
  · exact holds_of_not_gap hconfig unique

end Inferrer

end JsonShape
