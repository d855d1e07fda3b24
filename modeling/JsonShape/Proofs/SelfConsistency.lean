import JsonShape.Inference.Document
import JsonShape.Proofs.Findings
import JsonShape.Proofs.Gaps

/-!
# Inferred documents are consistent

Inference sets few keywords, and no rule finds fault with the values it gives them: counts are
small, a fixed length is both the least and the greatest, and the values that are listed under the
type of numbers are numbers.

Main statement: `Inferrer.document_errorCount`, whatever the settings are, no node in the tree of an
inferred document has an error.
-/

namespace JsonShape

open Members

/-! ### Facets without violations -/

namespace Facets

/-- No rule finds fault with the keywords that are set. -/
structure Harmless (facets : Facets) : Prop where
  number : ∀ keyword value, facets.number? keyword = some value →
    (keyword = .minItems ∨ keyword = .maxItems) ∧ ∃ count : Nat, count ≤ 3 ∧ value = .ofInt count
  range : ∀ least greatest, facets.minItems = some least → facets.maxItems = some greatest →
    least = greatest
  choices : facets.primaryType? = some .number → ∀ values, facets.choices = some values →
    ∀ value ∈ values, value.isNumber = true
  extra : facets.extra = []

variable {facets : Facets}

namespace Harmless

theorem misfits_eq_nil (harmless : facets.Harmless) (keywords : List Keyword) :
    facets.misfits keywords = [] := by
  rw [misfits, List.map_eq_nil_iff, List.filter_eq_nil_iff]
  intro keyword _
  rw [isMisfit, harmless.extra]
  exact Bool.false_ne_true

theorem number?_eq_none (harmless : facets.Harmless) {keyword : NumberKeyword}
    (hmin : keyword ≠ .minItems) (hmax : keyword ≠ .maxItems) : facets.number? keyword = none := by
  cases h : facets.number? keyword with
  | none => rfl
  | some value =>
    rcases (harmless.number keyword value h).1 with rfl | rfl
    · exact absurd rfl hmin
    · exact absurd rfl hmax

theorem countViolations_eq_nil (harmless : facets.Harmless) (keyword : NumberKeyword) :
    facets.countViolations keyword = [] := by
  unfold countViolations
  split
  · rfl
  · next value hvalue =>
    obtain ⟨_, count, hcount, hofInt⟩ := harmless.number keyword value hvalue
    have hinteger : value = .integer count (by omega) := hofInt.trans (dif_pos (by omega))
    have hwhole : value.isWhole = true := by
      rw [hinteger]
      rfl
    have hpositive : ¬ value.toBinary64.units < 0 := by
      rw [hinteger]
      exact Int.not_lt.mpr (Binary64.units_ofInt_nonneg count)
    rw [if_pos hwhole, if_neg hpositive]
    rfl

theorem consistent_of_eq (harmless : facets.Harmless) {min max : NumberKeyword}
    {minExclusive maxExclusive : Bool}
    (h : facets.number? min = none ∨ facets.number? max = none
      ∨ min = .minItems ∧ max = .maxItems ∧ minExclusive = false ∧ maxExclusive = false) :
    facets.consistent min minExclusive max maxExclusive = true := by
  unfold consistent rangeConsistent bound?
  rcases h with hmin | hmax | ⟨rfl, rfl, rfl, rfl⟩
  · rw [hmin]
    rfl
  · rw [hmax]
    cases (facets.number? min) <;> rfl
  · cases hmin : facets.number? .minItems with
    | none => rfl
    | some least =>
      cases hmax : facets.number? .maxItems with
      | none => rfl
      | some greatest =>
        rw [harmless.range least greatest hmin hmax]
        have hnot : greatest.toBinary64.lt greatest.toBinary64 = false :=
          decide_eq_false (Int.lt_irrefl _)
        simp [Extended.lt, hnot]

theorem rangeViolation_eq_nil (harmless : facets.Harmless) {min max : NumberKeyword}
    (violation : Violation)
    (h : min ≠ .minItems ∧ min ≠ .maxItems ∨ min = .minItems ∧ max = .maxItems) :
    facets.rangeViolation min max violation = [] := by
  refine if_pos (harmless.consistent_of_eq ?_)
  rcases h with ⟨hmin, hmax⟩ | ⟨hmin, hmax⟩
  · exact .inl (harmless.number?_eq_none hmin hmax)
  · exact .inr (.inr ⟨hmin, hmax, rfl, rfl⟩)

theorem numberViolations_eq_nil (harmless : facets.Harmless)
    (hnumbers : ∀ values, facets.choices = some values → ∀ value ∈ values, value.isNumber = true) :
    facets.numberViolations = [] := by
  have hnone : ∀ keyword : NumberKeyword, keyword ≠ .minItems → keyword ≠ .maxItems →
      facets.number? keyword = none := fun _ => harmless.number?_eq_none
  have hminimum : facets.minimum = none := hnone .minimum (by decide) (by decide)
  have hmaximum : facets.maximum = none := hnone .maximum (by decide) (by decide)
  have hexclusiveMinimum : facets.exclusiveMinimum = none :=
    hnone .exclusiveMinimum (by decide) (by decide)
  have hexclusiveMaximum : facets.exclusiveMaximum = none :=
    hnone .exclusiveMaximum (by decide) (by decide)
  have hmultipleOf : facets.bound? .multipleOf = none := by
    rw [bound?, hnone .multipleOf (by decide) (by decide)]
    rfl
  have hbounds : facets.boundsConsistent = true := by
    simp only [boundsConsistent, Bool.and_eq_true]
    exact ⟨⟨⟨harmless.consistent_of_eq (.inl hminimum), harmless.consistent_of_eq (.inl hminimum)⟩,
      harmless.consistent_of_eq (.inl hexclusiveMinimum)⟩,
      harmless.consistent_of_eq (.inl hexclusiveMinimum)⟩
  have hchoices : facets.choices.all (·.all facets.choiceInRange) = true := by
    rw [Option.all_eq_true]
    intro values hvalues
    rw [List.all_eq_true]
    intro value hvalue
    -- without bounds every number is in range
    have hnumber := hnumbers values hvalues value hvalue
    cases value with
    | number number =>
      simp [choiceInRange, bound?, number?, hminimum, hmaximum, hexclusiveMinimum,
        hexclusiveMaximum]
    | _ => cases hnumber
  simp [numberViolations, harmless.misfits_eq_nil, hmultipleOf, hbounds, hminimum, hmaximum,
    hchoices]

/-- No rule finds fault with harmless facets. -/
theorem violations_eq_nil (harmless : facets.Harmless) :
    facets.violations facets.primaryType? = [] := by
  cases htype : facets.primaryType? with
  | none => rfl
  | some type =>
    cases type with
    | string =>
      simp [violations, stringViolations, harmless.misfits_eq_nil, harmless.countViolations_eq_nil,
        harmless.rangeViolation_eq_nil]
    | number => exact harmless.numberViolations_eq_nil (harmless.choices htype)
    | array =>
      simp [violations, arrayViolations, harmless.misfits_eq_nil, harmless.countViolations_eq_nil,
        harmless.rangeViolation_eq_nil]
    | object =>
      simp [violations, objectViolations, harmless.misfits_eq_nil, harmless.countViolations_eq_nil,
        harmless.rangeViolation_eq_nil]
    | _ => rfl

end Harmless

/-- Facets with nothing but what inference and the heading of a document give. -/
theorem harmless_mk (schemaUri title description format : Option String) (type : Option TypeName)
    (required : Option (List String)) (minItems maxItems : Option Nat)
    (choices : Option (List Json))
    (hmin : ∀ count, minItems = some count → count ≤ 3)
    (hmax : maxItems = none ∨ maxItems = minItems)
    (hchoices : type = some .number → ∀ values, choices = some values →
      ∀ value ∈ values, value.isNumber = true) :
    Facets.Harmless
      { schemaUri := schemaUri
        title := title
        description := description
        type := type.map .single
        required := required
        minItems := minItems.map fun count : Nat => .ofInt count
        maxItems := maxItems.map fun count : Nat => .ofInt count
        format := format
        choices := choices } where
  number := by
    intro keyword value h
    have hsmall : ∀ count, maxItems = some count → count ≤ 3 := by
      rintro count hcount
      rcases hmax with hnone | heq
      · rw [hnone] at hcount
        cases hcount
      · exact hmin count (heq ▸ hcount)
    cases keyword with
    | minItems =>
      obtain ⟨count, hcount, heq⟩ := Option.map_eq_some_iff.mp h
      exact ⟨.inl rfl, count, hmin count hcount, heq.symm⟩
    | maxItems =>
      obtain ⟨count, hcount, heq⟩ := Option.map_eq_some_iff.mp h
      exact ⟨.inr rfl, count, hsmall count hcount, heq.symm⟩
    | _ => cases h
  range := by
    intro least greatest hleast hgreatest
    dsimp only at hleast hgreatest
    rcases hmax with hnone | heq
    · rw [hnone] at hgreatest
      cases hgreatest
    · rw [heq, hleast] at hgreatest
      exact Option.some.inj hgreatest
  choices := by
    intro htype
    refine hchoices ?_
    cases type with
    | none => cases htype
    | some found => exact htype
  extra := rfl

end Facets

namespace Schema

/-- No rule finds fault with the schema or with one below it. -/
inductive Consistent : Schema → Prop
  | object {facets parts} : facets.violations facets.primaryType? = [] →
      (∀ part ∈ parts.toList, Consistent part) → Consistent (object facets parts)

variable {schema : Schema}

theorem Consistent.errorCount_eq_zero (consistent : schema.Consistent) (messages : Messages) :
    (schema.issueTree messages).errorCount = 0 := by
  induction consistent with
  | @object facets parts hown _ ih =>
    have hbelow : ((ofEntries (parts.walked facets.primaryType?)).map
        fun child => (child.2.issueTree messages).errorCount).sum = 0 := by
      rw [List.sum_eq_zero_iff_forall_eq_nat, List.forall_mem_map]
      intro child hchild
      exact ih child.2 (exists_part_of_mem hchild)
    rw [errorCount_object, hown, hbelow]
    rfl

theorem Consistent.of_mem {facets : Facets} {parts : Parts Schema}
    (consistent : (Schema.object facets parts).Consistent) :
    ∀ part ∈ parts.toList, part.Consistent := by
  cases consistent with
  | object _ hbelow => exact hbelow

theorem consistent_of_facets {facets : Facets} (hfacets : facets.Harmless) :
    (object facets {}).Consistent :=
  .object hfacets.violations_eq_nil fun _ h => (by cases h)

theorem consistent_simple (type : TypeName) (description format : Option String) :
    (object { description := description, type := some (.single type), format := format }
      {}).Consistent :=
  consistent_of_facets (Facets.harmless_mk none none description format (some type) none none none
    none (by rintro _ ⟨⟩) (.inl rfl) (by rintro _ _ ⟨⟩))

theorem consistent_empty : empty.Consistent :=
  consistent_of_facets (Facets.harmless_mk none none none none none none none none none
    (by rintro _ ⟨⟩) (.inl rfl) (by rintro ⟨⟩))

theorem consistent_array {schemaUri title description : Option String}
    {minItems maxItems : Option Nat} (hmin : ∀ count, minItems = some count → count ≤ 3)
    (hmax : maxItems = none ∨ maxItems = minItems) (hschema : schema.Consistent) :
    (object
      { schemaUri := schemaUri
        title := title
        description := description
        type := some (.single .array)
        minItems := minItems.map fun count : Nat => .ofInt count
        maxItems := maxItems.map fun count : Nat => .ofInt count }
      { items := some (.single schema) }).Consistent := by
  have hfacets := Facets.harmless_mk schemaUri title description none (some .array) none minItems
    maxItems none hmin hmax (by rintro _ _ ⟨⟩)
  refine .object hfacets.violations_eq_nil fun part hpart => ?_
  rw [List.mem_singleton.mp hpart]
  exact hschema

theorem consistent_properties {schemaUri title description : Option String}
    {required : Option (List String)} {properties : Members Schema}
    (h : ∀ entry ∈ properties, entry.2.Consistent) :
    (object
      { schemaUri := schemaUri
        title := title
        description := description
        type := some (.single .object)
        required := required }
      { properties := some properties }).Consistent := by
  have hfacets := Facets.harmless_mk schemaUri title description none (some .object) required none
    none none (by rintro _ ⟨⟩) (.inl rfl) (by rintro _ _ ⟨⟩)
  refine .object hfacets.violations_eq_nil fun part hpart => ?_
  have hvalue : part ∈ properties.map Prod.snd := by simpa [Parts.toList] using hpart
  obtain ⟨entry, hentry, rfl⟩ := List.mem_map.mp hvalue
  exact h entry hentry

theorem consistent_oneOf {alternatives : List Schema}
    (h : ∀ part ∈ alternatives, part.Consistent) : (oneOf alternatives).Consistent := by
  have hfacets := Facets.harmless_mk none none none none none none none none none
    (by rintro _ ⟨⟩) (.inl rfl) (by rintro ⟨⟩)
  refine .object hfacets.violations_eq_nil fun part hpart => ?_
  exact h part (by simpa [Parts.toList] using hpart)

theorem consistent_choice {alternatives : List Schema}
    (h : ∀ part ∈ alternatives, part.Consistent) : (choice alternatives).Consistent := by
  unfold choice
  split
  · next part => exact h part (List.mem_singleton_self _)
  · exact consistent_oneOf h

end Schema

namespace Inferrer

open Schema Refinement

variable {config : InferenceConfig} {clockMs : Int} {inferrer : Inferrer}

/-! ### Inferred schemas -/

theorem unmixed_consistent : Unmixed fun schema => schema.Plain ∧ schema.Consistent where
  plain := And.left
  number := ⟨rfl, consistent_simple .number none none⟩

theorem consistent_of_mergeable {schema : Schema}
    (h : schema.Mergeable fun part => part.Plain ∧ part.Consistent) : schema.Consistent := by
  rcases h with h | ⟨alternatives, rfl, _, hall⟩
  · exact h.2
  · exact consistent_oneOf fun part hpart => (hall part hpart).2

/-- A refined schema has no issue if all values of a property of numbers are numbers. -/
theorem consistent_of_refined {property : String} {samples : List Json} {schema refined : Schema}
    (hrefined : Refined property samples schema refined) (hschema : schema.Consistent)
    (hnumbers : schema.isType .number = true →
      ∀ value ∈ observed property samples, value.isNumber = true) : refined.Consistent := by
  cases hrefined with
  | kept => exact hschema
  | @listed type values limit htype hvalues =>
    refine consistent_of_facets (Facets.harmless_mk none none none none (some type) none none none
      (some (values.mergeSort valueLe)) (by rintro _ ⟨⟩) (.inl rfl) ?_)
    rintro hnumber _ ⟨⟩ value hvalue
    cases hnumber
    have hlisted := (distinct_some hvalues).2 value (List.mem_mergeSort.mp hvalue)
    exact hnumbers (listedType_some htype).1 value (List.mem_filter.mp hlisted).1
  | @tuple length hlength =>
    have hsmall : ∀ count, some length = some count → count ≤ 3 := by
      rintro _ ⟨⟩
      exact commonLength_le hlength
    exact consistent_array hsmall (.inr rfl) (consistent_simple .number none none)
  | recent => exact consistent_simple .integer _ _

/-- Where merged properties have the type of numbers, all their values are numbers. -/
theorem isNumber_of_observed {objects : List (Members Json)} {name : String} {schema : Schema}
    (hlookup : (inferrer.mergedProperties objects).lookup name = some schema)
    (htype : schema.isType .number = true) :
    ∀ value ∈ observed name (objects.map .object), value.isNumber = true := by
  intro value hvalue
  obtain ⟨_, hsample, hmember⟩ := mem_observed.mp hvalue
  obtain ⟨members, hmembers, rfl⟩ := List.mem_map.mp hsample
  have hnoted : Noted objects name value := ⟨members, hmembers, mem_of_lookup hmember⟩
  have hgathers := gathers_mergedProperties unmixed_plain coverable_hasType
    fun _ value (_ : Noted objects _ value) => plain_infer inferrer value
  obtain ⟨found, hfound, alternative, hmem, own, hown, hhas⟩ := hgathers.covers name value
    ⟨hnoted, hasType_infer inferrer value⟩
  -- a schema with one type is its own only alternative, and the value has that type
  have heq : found = schema := Option.some.inj (hfound.symm.trans hlookup)
  have hmergeable := hgathers.mergeable name schema hlookup
  rw [heq, (plain_of_isType unmixed_plain hmergeable htype).alternatives_eq,
    List.mem_singleton] at hmem
  rw [hmem] at hown
  rw [isType_unique hown htype] at hhas
  cases value with
  | number _ => rfl
  | _ => cases hhas

theorem consistent_unify (hconfig : ofConfig config clockMs = .ok inferrer)
    {objects : List (Members Json)}
    (h : ∀ name value, Noted objects name value → (inferrer.infer value).Consistent) :
    (inferrer.unify ((objects.map Json.object).map inferrer.infer)
      (objects.map Json.object)).Consistent := by
  have hgathers := gathers_mergedProperties unmixed_consistent coverable_true
    fun name value hnoted => ⟨plain_infer inferrer value, h name value hnoted⟩
  rw [unify_objects]
  refine consistent_properties fun entry hentry => ?_
  obtain ⟨⟨name, merged⟩, hmerged, rfl⟩ := List.mem_map.mp hentry
  have hlookup := lookup_of_mem hgathers.nodup hmerged
  exact consistent_of_refined (refined_refine hconfig _ name merged)
    (consistent_of_mergeable (hgathers.mergeable name merged hlookup))
    (isNumber_of_observed hlookup)

/-- The schema of a value has no issue, whatever the settings are. -/
theorem consistent_infer (hconfig : ofConfig config clockMs = .ok inferrer) (value : Json) :
    (inferrer.infer value).Consistent := by
  induction value using Json.induction with
  | null => exact consistent_simple .null none none
  | bool => exact consistent_simple .boolean none none
  | number number => exact consistent_simple number.kind none none
  | string => exact consistent_simple .string none _
  | array elements ih =>
    have hnone : ∀ count : Nat, none = some count → count ≤ 3 := by rintro _ ⟨⟩
    have hzero : ∀ count : Nat, some 0 = some count → count ≤ 3 := by
      rintro _ ⟨⟩
      exact Nat.zero_le 3
    cases elements with
    | nil => exact consistent_array hnone (.inl rfl) consistent_empty
    | cons first rest =>
      rw [infer_cons]
      refine consistent_array hzero (.inl rfl) ?_
      rcases elements_cases first rest with ⟨objects, hobjects⟩ | ⟨hsame, hobject⟩ | hmixed
      · rw [sharedSchema_objects inferrer hobjects]
        refine consistent_unify hconfig ?_
        rintro name value ⟨members, hmembers, hmem⟩
        -- the hypothesis is about whole objects; their properties are below them
        have hobject := ih (.object members) (hobjects ▸ List.mem_map_of_mem hmembers)
        rw [infer_object] at hobject
        have hentry : (name, inferrer.infer value) ∈ Parts.mapMembers inferrer.infer members :=
          mem_mapMembers.mpr ⟨value, hmem, rfl⟩
        exact hobject.of_mem _ (Parts.mem_toList_of_properties rfl hentry)
      · rw [sharedSchema_same inferrer hsame hobject]
        exact ih first List.mem_cons_self
      · rw [sharedSchema_mixed inferrer hmixed]
        refine consistent_choice fun part hpart => ?_
        obtain ⟨element, helement, rfl⟩ := List.mem_map.mp (mem_of_mem_dedup hpart)
        exact ih element helement
  | object members ih =>
    rw [infer_object]
    refine consistent_properties fun entry hentry => ?_
    obtain ⟨value, hvalue, heq⟩ := mem_mapMembers.mp hentry
    rw [← heq]
    exact ih (entry.1, value) hvalue

/-! ### Documents -/

/-- The document of a value has no issue, whatever the settings are. -/
theorem consistent_document (hconfig : ofConfig config clockMs = .ok inferrer) (value : Json) :
    (inferrer.document value).Consistent := by
  have hroot := consistent_infer hconfig value
  have hwrapped : ∀ entry ∈ [("value", inferrer.infer value)], entry.2.Consistent := by
    intro entry hentry
    rw [List.mem_singleton.mp hentry]
    exact hroot
  cases value with
  | object members =>
    rw [infer_object] at hroot
    rw [document, infer_object]
    exact consistent_properties fun entry hentry =>
      hroot.of_mem _ (Parts.mem_toList_of_properties rfl hentry)
  | array elements =>
    cases elements with
    | nil =>
      have hnone : ∀ count : Nat, none = some count → count ≤ 3 := by rintro _ ⟨⟩
      exact consistent_array hnone (.inl rfl) consistent_empty
    | cons first rest =>
      rw [infer_cons] at hroot
      rw [document, infer_cons]
      have hzero : ∀ count : Nat, some 0 = some count → count ≤ 3 := by
        rintro _ ⟨⟩
        exact Nat.zero_le 3
      exact consistent_array hzero (.inl rfl) (hroot.of_mem _ (Parts.mem_toList_of_items rfl))
  | number number =>
    -- which of the two types of numbers it is does not matter for the form of the document
    rw [infer, ofNumber] at hwrapped
    rw [document, infer, ofNumber]
    generalize number.isWhole = whole at hwrapped ⊢
    cases whole <;> exact consistent_properties hwrapped
  | _ => exact consistent_properties hwrapped

/-- Inferred documents are consistent with themselves: whatever the settings, the value and the
messages are, neither the tree of the document nor a node of it has an error. -/
theorem document_errorCount (hconfig : ofConfig config clockMs = .ok inferrer) (value : Json)
    (messages : Messages) :
    let tree := (inferrer.document value).issueTree messages
    tree.errorCount = 0 ∧ ∀ place ∈ tree.nodes, place.2.errorCount = 0 := by
  intro tree
  have hzero : tree.errorCount = 0 :=
    (consistent_document hconfig value).errorCount_eq_zero messages
  exact ⟨hzero, fun place hplace =>
    IssueTree.errorCount_of_mem_nodesAt (counted_issueTree messages _) hzero hplace⟩

/-- The document of an array of objects whose property has values of two types. -/
theorem document_errorCount_mixed :
    ∃ inferrer, ofConfig openConfig 0 = .ok inferrer ∧
      ∀ place ∈ ((inferrer.document (.array (mixedObjects.map .object))).issueTree {}).nodes,
        place.2.errorCount = 0 := by
  obtain ⟨inferrer, hconfig⟩ := ofConfig_open
  exact ⟨inferrer, hconfig, (document_errorCount hconfig _ {}).2⟩

end Inferrer

end JsonShape
