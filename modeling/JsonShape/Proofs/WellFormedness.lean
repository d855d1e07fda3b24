import JsonShape.Instance.WellFormed
import JsonShape.Proofs.Acceptance

/-!
# Inferred schemas are well-formed

A schema with the keywords of inferred ones names no edition of the standard, and the values of all
its keywords have the form that the newer edition demands.

Main statement: `Schema.schemaFault_eq_none`, no fault is found in the written form of such a
schema.
-/

namespace JsonShape

open Members

namespace Edition

variable {edition : Edition}

theorem memberFaults_eq (members : Members Json) :
    edition.memberFaults members = members.map fun member =>
      (member.1, (edition.keywords.lookup member.1).bind (edition.valueFault? member.2)) := by
  induction members with
  | nil => rw [memberFaults, List.map_nil]
  | cons member rest ih =>
    obtain ⟨name, value⟩ := member
    rw [memberFaults, ih, List.map_cons]

/-- A schema has no fault if no member has one. -/
theorem fault_object {members : Members Json}
    (h : ∀ member ∈ members,
      (edition.keywords.lookup member.1).bind (edition.valueFault? member.2) = none) :
    edition.fault? (.object members) = none := by
  rw [fault?, memberFaults_eq]
  dsimp only
  rw [List.findSome?_eq_none_iff]
  rintro ⟨name, form⟩ _
  dsimp only
  -- what is found under a name is the fault of some member
  cases hlookup : (members.map fun member => (member.1, (edition.keywords.lookup member.1).bind
      (edition.valueFault? member.2))).lookup name with
  | none => rfl
  | some fault =>
    obtain ⟨member, hmember, heq⟩ := List.mem_map.mp (mem_of_lookup hlookup)
    cases heq
    exact h member hmember

theorem listFault_eq_none {schemas : List Json}
    (h : ∀ schema ∈ schemas, edition.fault? schema = none) :
    edition.listFault? schemas = none := by
  induction schemas with
  | nil => rw [listFault?]
  | cons schema rest ih =>
    rw [List.forall_mem_cons] at h
    rw [listFault?, h.1, ih h.2]
    rfl

theorem mapFault_eq_none {schemas : Members Json}
    (h : ∀ entry ∈ schemas, edition.fault? entry.2 = none) : edition.mapFault? schemas = none := by
  induction schemas with
  | nil => rw [mapFault?]
  | cons entry rest ih =>
    obtain ⟨name, schema⟩ := entry
    rw [List.forall_mem_cons] at h
    rw [mapFault?, h.1, ih h.2]
    rfl

end Edition

namespace Json

theorem allDistinct_map_string {names : List String} (nodup : names.Nodup) :
    allDistinct (names.map .string) = true := by
  induction names with
  | nil => rfl
  | cons name rest ih =>
    rw [List.nodup_cons] at nodup
    rw [List.map_cons, allDistinct, ih nodup.2, Bool.and_true, Bool.not_eq_true', List.any_map,
      List.any_eq_false]
    intro other hother hequal
    have heq : name = other := beq_iff_eq.mp hequal
    exact nodup.1 (heq ▸ hother)

end Json

theorem Number.units_zero : (0 : Number).units = 0 := by
  show (Number.ofInt 0).units = 0
  rw [Number.units_ofInt (by decide), Int.zero_mul]

theorem KeywordForm.first_eq_none {assertions : List (Assertion Check)} {value : Json}
    (h : ∀ assertion ∈ assertions, assertion.violations value = []) :
    first? assertions value = none := by
  rw [first?, List.flatMap_eq_nil_iff.mpr h]
  rfl

/-! ### Keyword by keyword -/

namespace Schema

variable {facets : Facets} {parts : Parts Schema}

/-- The value of a keyword has the form that the newer edition demands. -/
def WellWritten (keyword : Keyword) (written : Json) : Prop :=
  (Edition.draft2020.keywords.lookup keyword.name).bind (Edition.draft2020.valueFault? written)
    = none

theorem wellWritten_text {keyword : TextKeyword}
    (hkeyword : keyword = .description ∨ keyword = .format) (text : String) :
    WellWritten (.text keyword) (.string text) := by
  have hform : Edition.draft2020.keywords.lookup (Keyword.text keyword).name = some .text := by
    rcases hkeyword with rfl | rfl <;> decide
  unfold WellWritten
  rw [hform, Option.bind_some, Edition.valueFault?]
  rfl
  all_goals simp

theorem wellWritten_type (type : TypeName) : WellWritten .type (.string type.name) := by
  have hform : Edition.draft2020.keywords.lookup Keyword.type.name = some .types := by decide
  unfold WellWritten
  rw [hform, Option.bind_some, Edition.valueFault?]
  · cases type <;> decide
  all_goals simp

theorem minimum_eq_nil {limit number : Number} :
    (Assertion.minimum limit).violations (.number number) = [] ↔ limit.units ≤ number.units := by
  show Assertion.require (!number.lt limit) _ _ = [] ↔ _
  rw [Assertion.require_eq_nil, Number.lt, Bool.not_eq_true', decide_eq_false_iff_not, Int.not_lt]

theorem wellWritten_number {keyword : NumberKeyword}
    (hkeyword : keyword = .minItems ∨ keyword = .maxItems) {count : Nat} (small : count ≤ 3) :
    WellWritten (.number keyword) (.number (.ofInt count)) := by
  have hform : Edition.draft2020.keywords.lookup (Keyword.number keyword).name = some .count := by
    rcases hkeyword with rfl | rfl <;> decide
  unfold WellWritten
  rw [hform, Option.bind_some, Edition.valueFault?]
  · refine KeywordForm.first_eq_none ?_
    rw [List.forall_mem_cons, List.forall_mem_singleton]
    constructor
    · refine Assertion.require_eq_nil.mpr ?_
      rw [Number.ofInt, dif_pos (by omega)]
      rfl
    · rw [minimum_eq_nil, Number.units_ofInt (by omega), Number.units_zero]
      exact Int.mul_nonneg (Int.natCast_nonneg count) (Int.le_of_lt Binary64.one_pos)
  all_goals simp

theorem wellWritten_required {required : List String} (nodup : required.Nodup) :
    WellWritten .required (.array (required.map .string)) := by
  have hform : Edition.draft2020.keywords.lookup Keyword.required.name = some .names := by decide
  unfold WellWritten
  rw [hform, Option.bind_some, Edition.valueFault?]
  · refine KeywordForm.first_eq_none ?_
    rw [List.forall_mem_cons, List.forall_mem_cons, List.forall_mem_singleton]
    refine ⟨Assertion.require_eq_nil.mpr rfl, ?_, Assertion.require_eq_nil.mpr ?_⟩
    · refine List.flatMap_eq_nil_iff.mpr ?_
      rintro ⟨element, i⟩ hmem
      have helement := List.mem_of_getElem? (List.mem_zipIdx_iff_getElem?.mp hmem)
      obtain ⟨name, _, rfl⟩ := List.mem_map.mp helement
      rfl
    · exact Json.allDistinct_map_string nodup
  all_goals simp

theorem wellWritten_choices (values : List Json) : WellWritten .choices (.array values) := by
  have hform : Edition.draft2020.keywords.lookup Keyword.choices.name = some .list := by decide
  unfold WellWritten
  rw [hform, Option.bind_some, Edition.valueFault?]
  · rfl
  all_goals simp

theorem wellWritten_properties {schemas : Members Json}
    (h : ∀ entry ∈ schemas, Edition.draft2020.fault? entry.2 = none) :
    WellWritten (.map .properties) (.object schemas) := by
  have hform : Edition.draft2020.keywords.lookup (Keyword.map .properties).name
      = some .schemaMap := by decide
  unfold WellWritten
  rw [hform, Option.bind_some, Edition.valueFault?]
  exact Edition.mapFault_eq_none h

theorem wellWritten_oneOf {schemas : List Json} (nonempty : schemas ≠ [])
    (h : ∀ schema ∈ schemas, Edition.draft2020.fault? schema = none) :
    WellWritten (.list .oneOf) (.array schemas) := by
  have hform : Edition.draft2020.keywords.lookup (Keyword.list .oneOf).name = some .schemas := by
    decide
  unfold WellWritten
  rw [hform, Option.bind_some, Edition.valueFault?]
  · exact Edition.listFault_eq_none h
  · exact nonempty

theorem wellWritten_items {schema : Json} (h : Edition.draft2020.fault? schema = none) :
    WellWritten .items schema := by
  have hform : Edition.draft2020.keywords.lookup Keyword.items.name = some .schema := by decide
  unfold WellWritten
  rw [hform, Option.bind_some, Edition.valueFault?]
  exact h

/-! ### Whole schemas -/

theorem fault_toJson {schema : Schema} (emitted : schema.Emitted) :
    Edition.draft2020.fault? schema.toJson = none := by
  induction emitted with
  | @object facets parts hfacets hparts hbelow ih =>
    rw [toJson_object hfacets.lossless hparts.unique]
    refine Edition.fault_object ?_
    rintro ⟨name, written⟩ hmember
    obtain ⟨keyword, rfl, hwritten⟩ := (Facets.mem_members hfacets.lossless).mp hmember
    show WellWritten keyword written
    cases entry_of_written hfacets hparts hwritten with
    | text hkeyword => exact wellWritten_text hkeyword _
    | minItems hsmall => exact wellWritten_number (.inl rfl) hsmall
    | maxItems hsmall => exact wellWritten_number (.inr rfl) hsmall
    | properties hentries =>
      refine wellWritten_properties (mapMembers_entry.mpr fun entry hentry => ?_)
      exact ih entry.2 (Parts.mem_toList_of_properties hentries hentry)
    | oneOf halternatives nonempty =>
      refine wellWritten_oneOf (mt List.map_eq_nil_iff.mp nonempty) (List.forall_mem_map.mpr ?_)
      intro part hpart
      exact ih part (Parts.mem_toList_of_oneOf halternatives hpart)
    | @type type => exact wellWritten_type type
    | required _ nodup => exact wellWritten_required nodup
    | choices => exact wellWritten_choices _
    | items hspec => exact wellWritten_items (ih _ (Parts.mem_toList_of_items hspec))

/-- No fault is found in the written form of a schema with the keywords of inferred ones. -/
theorem schemaFault_eq_none {schema : Schema} (emitted : schema.Emitted) :
    schema.toJson.schemaFault? = none := by
  -- without `$schema` the newer edition counts
  have hedition : Edition.ofSchema schema.toJson = .draft2020 := by
    cases emitted with
    | @object facets parts hfacets hparts hbelow =>
      have huri : facets.schemaUri = none := by
        cases h : facets.schemaUri with
        | none => rfl
        | some uri => rcases hfacets.text .schemaUri uri h with h | h <;> cases h
      have hlookup : (facets.members (parts.map toJson)).lookup "$schema"
          = facets.written? (parts.map toJson) (.text .schemaUri) :=
        Facets.lookup_members hfacets.lossless (parts.map toJson) (.text .schemaUri)
      rw [toJson_object hfacets.lossless hparts.unique, Edition.ofSchema, Json.member?, hlookup,
        Facets.written?, Facets.text?, huri]
      rfl
  rw [Json.schemaFault?, hedition]
  exact fault_toJson emitted

end Schema

end JsonShape
