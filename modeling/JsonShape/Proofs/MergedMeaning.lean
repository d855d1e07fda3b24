import JsonShape.Proofs.Meaning
import JsonShape.Proofs.MergeOutcomes

/-!
# What a merged schema accepts

A merge is to accept what either schema accepts. It does so as far as it widens two numbers or makes
a choice of alternatives. Two things get lost. If the second schema is already listed among the
alternatives of the first, the first is kept as it is, and its other keywords may reject what the
second accepts. And for a boolean schema the placeholder is merged, which accepts `null` alone.

Main statement: `Schema.merge_accepts_iff` says exactly which values are lost in a merge.
-/

namespace JsonShape

namespace Schema

variable {dialect : Dialect} {first second : Schema} {schemas : List Schema} {value : Json}

/-! ### Choices -/

/-- A choice accepts what one of its alternatives accepts, also if there is just one. -/
theorem accepts_choice :
    (choice schemas).accepts dialect value = schemas.any (·.accepts dialect value) := by
  obtain ⟨schema, rfl, hchoice⟩ | ⟨-, hchoice⟩ := choice_cases schemas
  · rw [hchoice, List.any_cons, List.any_nil, Bool.or_false]
  · rw [hchoice, accepts_oneOf]

/-- An alternative that is left out is equal to one that stays. -/
theorem any_accepts_dedup (unique : ∀ schema ∈ schemas, schema.UniqueNames) :
    (dedup schemas).any (·.accepts dialect value) = schemas.any (·.accepts dialect value) := by
  rw [Bool.eq_iff_iff, List.any_eq_true, List.any_eq_true]
  constructor
  · rintro ⟨schema, hschema, haccepts⟩
    exact ⟨schema, mem_of_mem_dedup hschema, haccepts⟩
  · rintro ⟨schema, hschema, haccepts⟩
    -- what was left out has an equal among what stays, and equal schemas accept the same
    obtain ⟨kept, hkept, rfl | hsame⟩ := exists_mem_dedup hschema
    · exact ⟨kept, hkept, haccepts⟩
    · refine ⟨kept, hkept, ?_⟩
      rw [accepts_eq_of_same (unique kept (mem_of_mem_dedup hkept)) hsame]
      exact haccepts

/-- A schema that accepts something is `true` or an object schema. -/
theorem exists_object_of_accepts {schema : Schema} (h : schema.accepts dialect value = true)
    (htrue : schema ≠ boolean true) : ∃ facets parts, schema = object facets parts := by
  cases schema with
  | boolean accepted =>
    rw [accepts_boolean] at h
    rw [h] at htrue
    exact absurd rfl htrue
  | object facets parts => exact ⟨facets, parts, rfl⟩

/-! ### Widening -/

theorem isWidening_boolean (accepted : Bool) (schema : Schema) :
    (boolean accepted).asObject.isWidening schema = false := rfl

/-- A schema for integers or for numbers accepts only numbers. -/
theorem isNumber_of_accepts {schema : Schema} {type : TypeName}
    (hnumeric : type = .integer ∨ type = .number) (htype : schema.asObject.isType type = true)
    (h : schema.accepts dialect value = true) : TypeName.number.hasValue value = true := by
  cases schema with
  | boolean accepted => obtain rfl | rfl := hnumeric <;> cases htype
  | object facets parts =>
    have hvalue := hasValue_of_accepts htype h
    obtain rfl | rfl := hnumeric
    · cases value with
      | number x => rfl
      | _ => cases hvalue
    · exact hvalue

/-- Numbers that are widened accept only numbers. -/
theorem isNumber_of_isWidening (hwiden : first.asObject.isWidening second.asObject = true)
    (h : first.accepts dialect value = true ∨ second.accepts dialect value = true) :
    TypeName.number.hasValue value = true := by
  simp only [isWidening, Bool.or_eq_true, Bool.and_eq_true] at hwiden
  -- each of the two is for integers or for numbers, in either order
  obtain ⟨hinteger, hnumber⟩ | ⟨hnumber, hinteger⟩ := hwiden <;> obtain h | h := h
  · exact isNumber_of_accepts (.inl rfl) hinteger h
  · exact isNumber_of_accepts (.inr rfl) hnumber h
  · exact isNumber_of_accepts (.inr rfl) hnumber h
  · exact isNumber_of_accepts (.inl rfl) hinteger h

/-! ### Losses -/

/-- The first schema stays as it is when the second is merged into it. -/
def Keeps (first second : Schema) : Prop :=
  first.asObject.same second.asObject = true
    ∨ first.asObject.isWidening second.asObject = false
      ∧ second.asObject.isIn first.asObject.alternatives = true

/-- A schema that lists another one is no boolean schema, as the placeholder lists itself alone. -/
theorem asObject_eq_of_isIn (hdiffer : first.asObject.same second.asObject = false)
    (hin : second.asObject.isIn first.asObject.alternatives = true) : first.asObject = first := by
  obtain ⟨alternatives, honeOf, -⟩ := exists_oneOf?_of_isIn hdiffer hin
  cases first with
  | boolean accepted => cases honeOf
  | object facets parts => rfl

/-- The ways in which two schemas are merged, by what becomes of the first. -/
theorem merge_keeps_cases (first second : Schema) :
    (first.Keeps second ∧ first.merge second = first)
      ∨ ¬ first.Keeps second
        ∧ (first.asObject.isWidening second.asObject = true ∧ first.merge second = typed .number
          ∨ first.asObject.isWidening second.asObject = false
            ∧ first.merge second = choice (dedup (first.joined second))) := by
  unfold Keeps
  obtain ⟨hsame, hmerge⟩ | ⟨hdiffer, ⟨hwiden, hmerge⟩ | ⟨hwiden, ⟨hin, hmerge⟩ | ⟨hin, hmerge⟩⟩⟩ :=
    merge_outcomes first second
  · exact .inl ⟨.inl hsame, hmerge⟩
  · exact .inr ⟨by simp [hdiffer, hwiden], .inl ⟨hwiden, hmerge⟩⟩
  · rw [asObject_eq_of_isIn hdiffer hin] at hmerge
    exact .inl ⟨.inr ⟨hwiden, hin⟩, hmerge⟩
  · exact .inr ⟨by simp [hdiffer, hin], .inr ⟨hwiden, hmerge⟩⟩

/-- The ways in which a value that one of two schemas accepts is lost when they are merged. -/
inductive Lost (dialect : Dialect) (first second : Schema) (value : Json) : Prop
  /-- The first schema stays as it is, and only the second one accepts the value. -/
  | kept : first.Keeps second → second.accepts dialect value = true →
      first.accepts dialect value = false → Lost dialect first second value
  /-- One of them is `true`, and no alternative of the choice accepts the value. -/
  | replaced : first = boolean true ∨ second = boolean true → ¬ first.Keeps second →
      (∀ part ∈ first.joined second, part.accepts dialect value = false) →
      Lost dialect first second value

theorem accepts_joined (unique : first.UniqueNames) (unique' : second.UniqueNames) :
    (choice (dedup (first.joined second))).accepts dialect value = true ↔
      ∃ part ∈ first.joined second, part.accepts dialect value = true := by
  rw [accepts_choice, any_accepts_dedup, List.any_eq_true]
  intro part hpart
  rcases List.mem_append.mp hpart with hfirst | hsecond
  · exact unique.asObject.of_mem_alternatives hfirst
  · rw [List.mem_singleton.mp hsecond]
    exact unique'.asObject

/-- A value that is accepted is accepted by an alternative, unless the schema is `true`. -/
theorem exists_joined (h : first.accepts dialect value = true ∨ second.accepts dialect value = true)
    (hfirst : first ≠ boolean true) (hsecond : second ≠ boolean true) :
    ∃ part ∈ first.joined second, part.accepts dialect value = true := by
  obtain h | h := h
  · obtain ⟨facets, parts, rfl⟩ := exists_object_of_accepts h hfirst
    obtain ⟨part, hpart, haccepts⟩ := exists_alternative h
    exact ⟨part, List.mem_append_left _ hpart, haccepts⟩
  · obtain ⟨facets, parts, rfl⟩ := exists_object_of_accepts h hsecond
    exact ⟨_, List.mem_append_right _ (List.mem_singleton_self _), h⟩

/-- Merging two schemas keeps a value that one of them accepts, unless it is lost in one of the two
ways. -/
theorem merge_accepts_iff (dialect : Dialect) (unique : first.UniqueNames)
    (unique' : second.UniqueNames) (value : Json) :
    (first.accepts dialect value = true ∨ second.accepts dialect value = true →
        (first.merge second).accepts dialect value = true) ↔
      ¬ Lost dialect first second value := by
  -- the first schema stays as it is, or numbers are widened, or there is a choice
  obtain ⟨keeps, hmerge⟩ | ⟨notKept, ⟨hwiden, hmerge⟩ | ⟨-, hmerge⟩⟩ :=
    merge_keeps_cases first second <;> rw [hmerge]
  · constructor
    · rintro himp (⟨-, haccepted, hrejected⟩ | ⟨-, notKept, -⟩)
      · rw [himp (.inr haccepted)] at hrejected
        cases hrejected
      · exact notKept keeps
    · intro hlost haccepted
      by_contra hrejected
      exact hlost (.kept keeps (haccepted.resolve_left hrejected) (Bool.eq_false_iff.mpr hrejected))
  · -- boolean schemas are not widened, so all that is accepted are numbers
    rw [accepts_typed]
    refine iff_of_true (isNumber_of_isWidening hwiden) ?_
    rintro (⟨keeps, -, -⟩ | ⟨rfl | rfl, -, -⟩)
    · exact notKept keeps
    · rw [isWidening_boolean] at hwiden
      cases hwiden
    · rw [isWidening_comm, isWidening_boolean] at hwiden
      cases hwiden
  · rw [accepts_joined unique unique']
    constructor
    · rintro himp (⟨keeps, -, -⟩ | ⟨htrue, -, hnone⟩)
      · exact notKept keeps
      · obtain ⟨part, hpart, haccepts⟩ := himp (htrue.imp (by rintro rfl; rfl) (by rintro rfl; rfl))
        rw [hnone part hpart] at haccepts
        cases haccepts
    · intro hlost haccepted
      by_contra hnone
      push Not at hnone
      have hrejected : ∀ part ∈ first.joined second, part.accepts dialect value = false :=
        fun part hpart => Bool.eq_false_iff.mpr (hnone part hpart)
      -- only `true` accepts a value and has no alternative that does
      have hfirst : first ≠ boolean true := fun h => hlost (.replaced (.inl h) notKept hrejected)
      have hsecond : second ≠ boolean true := fun h => hlost (.replaced (.inr h) notKept hrejected)
      obtain ⟨part, hpart, haccepts⟩ := exists_joined haccepted hfirst hsecond
      exact hnone part hpart haccepts

/-- Of two object schemas nothing is lost, unless the first lists the second among its alternatives
and rejects for another reason what that one accepts. -/
theorem lost_iff_of_objects (unique : first.UniqueNames) (hfirst : first.asObject = first)
    (hsecond : second.asObject = second) :
    Lost dialect first second value ↔
      (∃ alternatives, first.oneOf? = some alternatives ∧ second.isIn alternatives = true)
        ∧ first.isWidening second = false ∧ second.accepts dialect value = true
        ∧ first.accepts dialect value = false := by
  constructor
  · rintro (⟨keeps, haccepted, hrejected⟩ | ⟨rfl | rfl, -, -⟩)
    · have hdiffer : first.same second = false := by
        refine Bool.eq_false_iff.mpr fun hsame => ?_
        rw [accepts_eq_of_same unique hsame, haccepted] at hrejected
        cases hrejected
      rw [Keeps, hfirst, hsecond, hdiffer] at keeps
      obtain ⟨hwiden, hin⟩ := keeps.resolve_left Bool.false_ne_true
      exact ⟨exists_oneOf?_of_isIn hdiffer hin, hwiden, haccepted, hrejected⟩
    · cases hfirst
    · cases hsecond
  · rintro ⟨⟨alternatives, honeOf, hin⟩, hwiden, haccepted, hrejected⟩
    refine .kept (.inr ?_) haccepted hrejected
    rw [hfirst, hsecond, alternatives_of_oneOf? honeOf]
    exact ⟨hwiden, hin⟩

theorem merge_accepts_iff_textOrFlag :
    (typed .string).UniqueNames ∧ (typed .boolean).UniqueNames
      ∧ (typed .boolean).accepts .plain (.bool true) = true
      ∧ ((typed .string).merge (typed .boolean)).accepts .plain (.bool true) = true := by
  have haccepted : (typed .boolean).accepts .plain (.bool true) = true := accepts_typed
  refine ⟨uniqueNames_typed _, uniqueNames_typed _, haccepted,
    (merge_accepts_iff .plain (uniqueNames_typed _) (uniqueNames_typed _) _).mpr ?_
      (.inr haccepted)⟩
  rw [lost_iff_of_objects (uniqueNames_typed _) rfl rfl]
  rintro ⟨⟨alternatives, honeOf, -⟩, -⟩
  cases honeOf

/-- A text that has to be a number as well. -/
def textNumber : Schema := object (Facets.typed .string) { oneOf := some [typed .number] }

/-- As numbers are listed, the schema stays as it is, and numbers are no texts. -/
theorem textNumber_merge_number :
    (typed .number).accepts .plain (.number 5) = true
      ∧ textNumber.merge (typed .number) = textNumber
      ∧ (textNumber.merge (typed .number)).accepts .plain (.number 5) = false :=
  ⟨rfl, rfl, rfl⟩

end Schema

end JsonShape
