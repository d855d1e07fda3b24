import JsonShape.Proofs.Loading
import JsonShape.Proofs.Walk

/-!
# Reported misfits

A keyword whose value does not have the form of its field is loaded all the same, and the rules of a
type are to report it. They do so for the keywords that have no sub-schemas. The five keywords of
arrays and objects that have sub-schemas are in no list of the rules: a misfit of one of them is
passed over, and what stands under it is not checked either.

Main statement: by `Schema.misfit_reported_iff`, wherever the walk comes, a misfit among the
keywords of the type is reported exactly if its keyword has no sub-schemas.
-/

namespace JsonShape

open Members

/-! ### Values of the form of a field -/

/-- Whether a value is a schema. -/
def Json.isSchema : Json → Bool
  | bool _ => true
  | object _ => true
  | _ => false

namespace Keyword

/-- Whether a value has the form of the field of a keyword. -/
def fits : Keyword → Json → Bool
  | text _, .string _ => true
  | number _, .number _ => true
  | map _, .object members => members.all fun member => member.2.isSchema
  | list _, .array values => values.all Json.isSchema
  | single _, value => value.isSchema
  | type, .string _ => true
  | type, .array values => values.all Json.isString
  | required, .array values => values.all Json.isString
  | uniqueItems, .bool _ => true
  | choices, .array _ => true
  | items, .array values => values.all Json.isSchema
  | items, value => value.isSchema
  | _, _ => false

end Keyword

/-- The keywords with a field that belong to a type that has rules. -/
def TypeName.keywords : TypeName → List Keyword
  | string => [.number .minLength, .number .maxLength, .text .pattern, .text .format]
  | number =>
    [.number .minimum, .number .maximum, .number .exclusiveMinimum, .number .exclusiveMaximum,
     .number .multipleOf, .choices]
  | array =>
    [.items, .list .prefixItems, .number .minItems, .number .maxItems, .number .minContains,
     .number .maxContains, .uniqueItems]
  | object =>
    [.map .properties, .map .patternProperties, .single .additionalProperties,
     .number .minProperties, .number .maxProperties, .required]
  | _ => []

namespace Schema

theorem isSome_ofJson? (value : Json) : (ofJson? value).isSome = value.isSchema := by
  cases value <;> simp only [ofJson?, Json.isSchema, Option.isSome_some, Option.isSome_none]

theorem isSome_listOf? (values : List Json) :
    (listOf? values).isSome = values.all Json.isSchema := by
  induction values with
  | nil => rw [listOf?, Option.isSome_some, List.all_nil]
  | cons value rest ih =>
    rw [List.all_cons, ← ih, ← isSome_ofJson?, listOf?]
    cases ofJson? value <;> cases listOf? rest <;> rfl

theorem isSome_mapOf? (members : Members Json) :
    (mapOf? members).isSome = members.all fun member => member.2.isSchema := by
  induction members with
  | nil => rw [mapOf?, Option.isSome_some, List.all_nil]
  | cons member rest ih =>
    obtain ⟨name, value⟩ := member
    rw [List.all_cons, ← ih, ← isSome_ofJson?, mapOf?]
    cases ofJson? value <;> cases mapOf? rest <;> rfl

end Schema

theorem Json.isSome_stringList? (values : List Json) :
    (stringList? values).isSome = values.all isString := by
  induction values with
  | nil => rfl
  | cons value rest ih =>
    cases value with
    | string text =>
      rw [stringList?, Option.isSome_map, ih]
      rfl
    | _ => rfl

theorem TypeSpec.isSome_ofJson? (value : Json) :
    (ofJson? value).isSome = Keyword.type.fits value := by
  cases value with
  | array values =>
    rw [ofJson?, Keyword.fits]
    cases values.all Json.isString <;> rfl
  | _ => rfl

/-- A value goes into the field of a keyword exactly if it has the form of that field. -/
theorem Content.isSome_ofJson? (k : Keyword) (value : Json) :
    (Content.ofJson? k value).isSome = k.fits value := by
  cases k with
  | map k =>
    cases value with
    | object members => exact Schema.isSome_mapOf? members
    | _ => rfl
  | list k =>
    cases value with
    | array values => exact Schema.isSome_listOf? values
    | _ => rfl
  | single k => exact (Schema.isSome_ofJson? value).trans (by cases value <;> rfl)
  | type => exact TypeSpec.isSome_ofJson? value
  | required =>
    cases value with
    | array values => exact Json.isSome_stringList? values
    | _ => rfl
  | items =>
    cases value with
    | array values => exact Option.isSome_map.trans (Schema.isSome_listOf? values)
    | _ => exact Option.isSome_map.trans (Schema.isSome_ofJson? _)
  | _ => cases value <;> rfl

/-- The keywords that are kept as misfits are those whose values do not fit. -/
theorem Schema.LoadedFrom.isMisfit_iff {members : Members Json} {facets : Facets}
    {parts : Parts Schema} (loaded : LoadedFrom members facets parts)
    (nodup : (names members).Nodup) (k : Keyword) :
    facets.isMisfit k = true ↔
      ∃ value, members.lookup k.name = some value ∧ k.fits value = false := by
  rw [Facets.isMisfit, contains_iff, loaded.extra]
  constructor
  · intro hname
    obtain ⟨⟨name, value⟩, hmem, rfl⟩ := List.mem_map.mp hname
    obtain ⟨hmember, hmisfit⟩ := mem_unfielded.mp hmem
    refine ⟨value, lookup_of_mem nodup hmember, ?_⟩
    rw [← Content.isSome_ofJson?, hmisfit k rfl]
    rfl
  · rintro ⟨value, hvalue, hfits⟩
    refine mem_names_of_mem (mem_unfielded.mpr ⟨mem_of_lookup hvalue, fun other hother => ?_⟩)
    obtain rfl := Keyword.name_injective hother
    rwa [← Option.isNone_iff_eq_none, ← Option.isSome_eq_false_iff, Content.isSome_ofJson?]

/-! ### What the rules report -/

namespace Facets

variable {facets : Facets} {k : Keyword}

theorem invalidType_mem_misfits {keywords : List Keyword} :
    .invalidType k ∈ facets.misfits keywords ↔ k ∈ keywords ∧ facets.isMisfit k = true := by
  simp [misfits]

theorem invalidType_notMem_countViolations (keyword : NumberKeyword) :
    .invalidType k ∉ facets.countViolations keyword := by
  unfold countViolations
  split <;> simp

theorem invalidType_notMem_rangeViolation {min max : NumberKeyword} {violation : Violation}
    (h : .invalidType k ≠ violation) :
    .invalidType k ∉ facets.rangeViolation min max violation := by
  unfold rangeViolation
  split <;> simp [h]

/-- The rules of a type report a keyword as misfitting exactly if it is, it belongs to the type, and
it has no sub-schemas. -/
theorem invalidType_mem_violations {type : TypeName} :
    .invalidType k ∈ facets.violations (some type) ↔
      (k ∈ type.keywords ∧ k ∉ partKeywords) ∧ facets.isMisfit k = true := by
  -- the lists of the rules are those of the type without the five keywords
  have hlisted : k ∈ type.keywords ∧ k ∉ partKeywords
      ↔ k ∈ type.keywords.filter (· ∉ partKeywords) := by
    rw [List.mem_filter, decide_eq_true_iff]
  rw [hlisted, ← invalidType_mem_misfits]
  cases type with
  | string =>
    simp only [violations, stringViolations, List.mem_append, invalidType_notMem_countViolations,
      invalidType_notMem_rangeViolation, or_false, ne_eq, reduceCtorEq, not_false_eq_true]
    rfl
  | number =>
    simp only [violations, numberViolations, List.mem_append, List.mem_cons, List.not_mem_nil,
      apply_ite (Violation.invalidType k ∈ ·), reduceCtorEq, or_self, ite_self, or_false]
    rfl
  | array =>
    simp only [violations, arrayViolations, List.mem_append, invalidType_notMem_countViolations,
      invalidType_notMem_rangeViolation, or_false, ne_eq, reduceCtorEq, not_false_eq_true]
    rfl
  | object =>
    simp only [violations, objectViolations, List.mem_append, invalidType_notMem_countViolations,
      invalidType_notMem_rangeViolation, or_false, ne_eq, reduceCtorEq, not_false_eq_true]
    rfl
  | _ => exact Iff.rfl

end Facets

/-- No rule of another kind speaks about a keyword with sub-schemas. -/
theorem Violation.tag?_ne_of_mem_partKeywords {violation : Violation}
    (hkind : ∀ k, violation ≠ invalidType k) {k : Keyword} (hk : k ∈ partKeywords) :
    violation.tag? ≠ some k.name := by
  intro htag
  cases violation with
  | invalidType other => exact hkind other rfl
  | notWhole keyword | negative keyword =>
    obtain rfl := Keyword.name_injective (Option.some.inj htag)
    simp [partKeywords] at hk
  | _ =>
    revert k
    decide

/-- The issues that are tagged with a keyword with sub-schemas: there are none. -/
theorem Facets.tag_ne_of_mem_partKeywords {facets : Facets} {type : TypeName} {k : Keyword}
    (hk : k ∈ partKeywords) {violation : Violation}
    (hviolation : violation ∈ facets.violations (some type)) : violation.tag? ≠ some k.name := by
  -- a misfit of such a keyword is in no list, and the other violations are about other keywords
  by_cases hkind : ∃ other, violation = .invalidType other
  · obtain ⟨other, rfl⟩ := hkind
    intro htag
    obtain rfl := Keyword.name_injective (Option.some.inj htag)
    exact (invalidType_mem_violations.mp hviolation).1.2 hk
  · push Not at hkind
    exact Violation.tag?_ne_of_mem_partKeywords hkind hk

/-! ### Where the walk comes -/

namespace Schema

/-- Every sub-schema that the walk reaches is loaded from a value in the document. -/
theorem Reached.exists_within {schema target : Schema} {path : List String}
    (reached : Reached schema path target) {value : Json} (unique : value.UniqueNames)
    (h : ofJson? value = some schema) :
    ∃ found : Json, found.Within value ∧ ofJson? found = some target := by
  induction reached generalizing value with
  | here => exact ⟨value, .self, h⟩
  | @through facets parts key part path target child _ ih =>
    obtain ⟨_, -, heq⟩ | ⟨members, _, _, rfl, heq, loaded⟩ := ofJson?_cases unique h
    · cases heq
    · cases heq
      -- a child is in the content of a field, and that was read from a member
      obtain ⟨k, content, hfield, hpart⟩ := (mem_toList_iff facets).mp (mem_toList_of_child child)
      rw [loaded.fields] at hfield
      obtain ⟨written, hwritten, hcontent⟩ := Option.bind_eq_some_iff.mp hfield
      obtain ⟨middle, hmiddle, hload⟩ := Content.exists_within_of_mem_toList hcontent hpart
      have hwithin : middle.Within (.object members) := .member (mem_of_lookup hwritten) hmiddle
      obtain ⟨found, hfound, htarget⟩ := ih (hwithin.uniqueNames unique) hload
      exact ⟨found, hfound.trans hwithin, htarget⟩

variable (messages : Messages)

theorem issues_issueTree (facets : Facets) (parts : Parts Schema) :
    ((object facets parts).issueTree messages).issues
      = (facets.violations facets.primaryType?).map (Violation.issue messages) := by
  rw [issueTree_object]
  rfl

/-- Wherever the walk of a loaded document comes, the schema there is loaded from an object of the
document, and a keyword of its type with a value that does not fit is reported if it has no
sub-schemas. If it has, no issue is tagged with it. -/
theorem misfit_reported_iff {value : Json} (unique : value.UniqueNames) {schema : Schema}
    (h : ofJson value = .ok schema) {path : List String} {facets : Facets} {parts : Parts Schema}
    (reached : Reached schema path (object facets parts)) {type : TypeName}
    (htype : facets.primaryType? = some type) :
    (∃ members, (Json.object members).Within value
        ∧ ofJson (.object members) = .ok (object facets parts))
      ∧ ∀ members, (Json.object members).Within value →
        ofJson (.object members) = .ok (object facets parts) →
        ∀ k ∈ type.keywords, ∀ written, members.lookup k.name = some written →
          k.fits written = false →
          (k ∉ partKeywords → ⟨messages.invalidType, some k.name⟩
              ∈ ((object facets parts).issueTree messages).issues)
            ∧ ((∃ issue ∈ ((object facets parts).issueTree messages).issues,
                issue.tag = some k.name) ↔ k ∉ partKeywords) := by
  constructor
  · obtain ⟨found, hwithin, hload⟩ := reached.exists_within unique (ofJson_eq_ok.mp h)
    obtain ⟨_, -, heq⟩ | ⟨members, _, _, rfl, -, -⟩ :=
      ofJson?_cases (hwithin.uniqueNames unique) hload
    · cases heq
    · exact ⟨members, hwithin, ofJson_eq_ok.mpr hload⟩
  · intro members hwithin hload k hk written hwritten hfits
    have hunique := hwithin.uniqueNames unique
    obtain ⟨_, -, heq⟩ | ⟨_, _, _, hmembers, heq, loaded⟩ :=
      ofJson?_cases hunique (ofJson_eq_ok.mp hload)
    · cases heq
    cases heq
    cases hmembers
    -- a value that does not fit was kept under its keyword, and that is what the rules look for
    have hmisfit := (loaded.isMisfit_iff hunique.nodup k).mpr ⟨written, hwritten, hfits⟩
    rw [issues_issueTree, htype]
    have hreported : k ∉ partKeywords → ⟨messages.invalidType, some k.name⟩
        ∈ (facets.violations (some type)).map (Violation.issue messages) := fun hparts =>
      List.mem_map.mpr ⟨_, Facets.invalidType_mem_violations.mpr ⟨⟨hk, hparts⟩, hmisfit⟩, rfl⟩
    refine ⟨hreported, ?_, fun hparts => ⟨_, hreported hparts, rfl⟩⟩
    rintro ⟨issue, hissue, htag⟩ hparts
    obtain ⟨violation, hviolation, rfl⟩ := List.mem_map.mp hissue
    exact Facets.tag_ne_of_mem_partKeywords hparts hviolation htag

/-- The members of an array schema with two misfits, one of a keyword with sub-schemas. -/
def misfitMembers : Members Json :=
  [("type", .string "array"), ("minItems", .string "x"), ("items", .number 5)]

/-- The schema of these members. -/
def misfitArray : Schema :=
  object
    { type := some (.single .array), extra := [("minItems", .string "x"), ("items", .number 5)] } {}

/-- A document with this schema under a property. -/
def misfitDocument : Json :=
  .object [("type", .string "object"), ("properties", .object [("a", .object misfitMembers)])]

theorem misfitMembers_unique : (Json.object misfitMembers).UniqueNames := by
  refine .object (by decide) ?_
  simp only [misfitMembers, List.forall_mem_cons]
  exact ⟨.string, .string, .number, by simp⟩

theorem misfitDocument_unique : misfitDocument.UniqueNames := by
  refine .object (by decide) ?_
  simp only [List.forall_mem_cons]
  refine ⟨.string, .object (by decide) ?_, by simp⟩
  simp only [List.forall_mem_cons]
  exact ⟨misfitMembers_unique, by simp⟩

theorem ofJson_misfitMembers : ofJson (.object misfitMembers) = .ok misfitArray := by
  simp [misfitMembers, misfitArray, ofJson, ofJson?, ofMembers, place?_eq, setField,
    Content.ofJson?, TypeSpec.ofJson?, TypeName.ofName?, TypeName.all, TypeName.name,
    Keyword.ofName?, Keyword.all, Keyword.name]

theorem ofJson_misfitDocument : ofJson misfitDocument
    = .ok (object (Facets.typed .object) { properties := some [("a", misfitArray)] }) := by
  have hpart : mapOf? [("a", .object misfitMembers)] = some [("a", misfitArray)] := by
    simp only [mapOf?, ofJson_eq_ok.mp ofJson_misfitMembers]
  simp [misfitDocument, ofJson, ofJson?, ofMembers, place?_eq, setField, Parts.setMap,
    Content.ofJson?, hpart, TypeSpec.ofJson?, TypeName.ofName?, TypeName.all, TypeName.name,
    Keyword.ofName?, Keyword.all, Keyword.name, Facets.typed]

theorem misfitArray_reached :
    Reached (object (Facets.typed .object) { properties := some [("a", misfitArray)] }) ["a"]
      misfitArray :=
  .through (.property rfl List.mem_cons_self) .here

theorem misfitDocument_reported :
    misfitDocument.UniqueNames
      ∧ ofJson misfitDocument
        = .ok (object (Facets.typed .object) { properties := some [("a", misfitArray)] })
      ∧ Reached (object (Facets.typed .object) { properties := some [("a", misfitArray)] }) ["a"]
        misfitArray
      ∧ misfitArray.primaryType? = some .array
      ∧ ⟨Messages.invalidType {}, some "minItems"⟩ ∈ (misfitArray.issueTree {}).issues
      ∧ ¬ ∃ issue ∈ (misfitArray.issueTree {}).issues, issue.tag = some "items" := by
  have hreported := (misfit_reported_iff {} misfitDocument_unique ofJson_misfitDocument
    misfitArray_reached (rfl : Facets.primaryType? _ = some .array)).2 misfitMembers
    (.member (List.mem_cons_of_mem _ List.mem_cons_self) (.member List.mem_cons_self .self))
    ofJson_misfitMembers
  refine ⟨misfitDocument_unique, ofJson_misfitDocument, misfitArray_reached, rfl, ?_, ?_⟩
  · exact (hreported (.number .minItems) (by decide) _ rfl rfl).1 (by decide)
  · intro hissue
    exact (hreported .items (by decide) _ rfl rfl).2.mp hissue (by decide)

/-- The misfit of `items` is the only thing wrong with this document, and it has no error. -/
theorem misfitItems_unreported :
    (Json.object [("type", .string "array"), ("items", .number 5)]).UniqueNames
      ∧ Keyword.items ∈ TypeName.array.keywords ∧ Keyword.items.fits (.number 5) = false
      ∧ ∃ facets parts,
        ofJson (.object [("type", .string "array"), ("items", .number 5)])
          = .ok (object facets parts)
        ∧ facets.primaryType? = some .array
        ∧ ((object facets parts).issueTree {}).issues = []
        ∧ ((object facets parts).issueTree {}).errorCount = 0 := by
  refine ⟨.object (by decide) ?_, by decide, rfl,
    { type := some (.single .array), extra := [("items", .number 5)] }, {}, ?_, rfl, rfl, rfl⟩
  · simp only [List.forall_mem_cons]
    exact ⟨.string, .number, by simp⟩
  · simp [ofJson, ofJson?, ofMembers, place?_eq, setField, Content.ofJson?, TypeSpec.ofJson?,
      TypeName.ofName?, TypeName.all, TypeName.name, Keyword.ofName?, Keyword.all, Keyword.name]

end Schema

end JsonShape
