import JsonShape.Proofs.TreeEquality

/-!
# Alternatives of merged schemas

What a merge gives depends on whether one schema is listed among the alternatives of the other;
there is one equation for each case (`Schema.merge_of_same`, `Schema.merge_of_isWidening`,
`Schema.merge_of_isIn` and `Schema.merge_of_not_isIn`). A schema is never equal to one of its own
alternatives, however deep these are nested, and where no name is repeated none is in the
alternatives either.

Main statement: `Schema.not_same_of_mem_oneOf?`, no schema is equal to one of its own alternatives.
-/

namespace JsonShape

namespace Schema

variable {schema other first second : Schema} {alternatives : List Schema}

/-- The list of alternatives, if there is one. -/
def oneOf? (schema : Schema) : Option (List Schema) := schema.parts?.bind Parts.oneOf

theorem alternatives_eq (schema : Schema) : schema.alternatives = schema.oneOf?.getD [schema] :=
  rfl

theorem alternatives_of_oneOf? (h : schema.oneOf? = some alternatives) :
    schema.alternatives = alternatives := by
  rw [alternatives_eq, h, Option.getD_some]

theorem alternatives_of_none (h : schema.oneOf? = none) : schema.alternatives = [schema] := by
  rw [alternatives_eq, h, Option.getD_none]

theorem alternatives_eq_nil_iff : schema.alternatives = [] ↔ schema.oneOf? = some [] := by
  cases h : schema.oneOf? with
  | none => simp [alternatives_of_none h]
  | some alternatives => rw [alternatives_of_oneOf? h, Option.some_inj]

/-- What is listed among the alternatives without being the schema itself is in a list of them. -/
theorem exists_oneOf?_of_isIn (hdiffer : schema.same other = false)
    (hin : other.isIn schema.alternatives = true) :
    ∃ alternatives, schema.oneOf? = some alternatives ∧ other.isIn alternatives = true := by
  cases h : schema.oneOf? with
  | none =>
    rw [alternatives_of_none h] at hin
    obtain ⟨found, hfound, hsame⟩ := isIn_iff.mp hin
    rw [List.mem_singleton.mp hfound, hdiffer] at hsame
    cases hsame
  | some alternatives =>
    rw [alternatives_of_oneOf? h] at hin
    exact ⟨alternatives, rfl, hin⟩

theorem mem_toList_of_oneOf? {facets : Facets} {parts : Parts Schema}
    (h : (object facets parts).oneOf? = some alternatives) {part : Schema}
    (hpart : part ∈ alternatives) : part ∈ parts.toList :=
  Parts.mem_toList_of_oneOf h hpart

/-- The alternatives of equal schemas are equal one by one. -/
theorem relate_oneOf? (h : schema.same other = true) :
    relateOption (relateList same) schema.oneOf? other.oneOf? = true := by
  cases schema with
  | boolean accepts =>
    cases other with
    | boolean _ => rfl
    | object _ _ => cases h
  | object facets parts =>
    obtain ⟨facets', parts', rfl, -⟩ := same_object h
    rw [same_object_eq, Bool.and_eq_true] at h
    exact (Parts.relate_fields h.2).2.1 .oneOf

/-- No schema is equal to one of its own alternatives. -/
theorem not_same_of_mem_oneOf? (h : schema.oneOf? = some alternatives) {part : Schema}
    (hpart : part ∈ alternatives) : part.same schema = false ∧ schema.same part = false := by
  induction schema using Schema.induction generalizing alternatives part with
  | boolean accepts => cases h
  | object facets parts ih =>
    -- the alternative would have an alternative of its own that equals it, and so on
    have hbelow := @ih part (mem_toList_of_oneOf? h hpart)
    constructor
    · refine Bool.eq_false_iff.mpr fun hsame => ?_
      have hrelate := relate_oneOf? hsame
      rw [h] at hrelate
      obtain ⟨_, hnone⟩ | ⟨own, _, hown, hlist, hpairs⟩ := relateOption_cases hrelate
      · cases hnone
      · cases hlist
        obtain ⟨inner, hinner, hequal⟩ :=
          exists_of_mem_forall₂_right (relateList_iff.mp hpairs) hpart
        rw [(hbelow hown hinner).1] at hequal
        cases hequal
    · refine Bool.eq_false_iff.mpr fun hsame => ?_
      have hrelate := relate_oneOf? hsame
      rw [h] at hrelate
      obtain ⟨own, hown, hpairs⟩ := relateOption_some hrelate
      obtain ⟨inner, hinner, hequal⟩ := exists_of_mem_forall₂ (relateList_iff.mp hpairs) hpart
      rw [(hbelow hown hinner).2] at hequal
      cases hequal

/-! ### Schemas without repeated names -/

theorem uniqueNames_typed (type : TypeName) : (typed type).UniqueNames :=
  (emitted_simple type none none).tidy.uniqueNames

theorem UniqueNames.asObject (unique : schema.UniqueNames) : schema.asObject.UniqueNames := by
  cases schema with
  | boolean accepts => exact uniqueNames_typed .null
  | object facets parts => exact unique

theorem UniqueNames.not_same_symm (unique : other.UniqueNames) (h : schema.same other = false) :
    other.same schema = false :=
  Bool.eq_false_iff.mpr fun hsame => Bool.eq_false_iff.mp h (unique.same_symm hsame)

theorem UniqueNames.of_mem_oneOf? (unique : schema.UniqueNames)
    (h : schema.oneOf? = some alternatives) {part : Schema} (hpart : part ∈ alternatives) :
    part.UniqueNames := by
  cases schema with
  | boolean accepts => cases h
  | object facets parts => exact unique.of_object.2.2 part (mem_toList_of_oneOf? h hpart)

theorem UniqueNames.of_mem_alternatives (unique : schema.UniqueNames) {part : Schema}
    (hpart : part ∈ schema.alternatives) : part.UniqueNames := by
  cases honeOf : schema.oneOf? with
  | none =>
    rw [alternatives_of_none honeOf] at hpart
    rw [List.mem_singleton.mp hpart]
    exact unique
  | some alternatives =>
    rw [alternatives_of_oneOf? honeOf] at hpart
    exact unique.of_mem_oneOf? honeOf hpart

/-! ### Widening -/

theorem isWidening_comm (first second : Schema) :
    first.isWidening second = second.isWidening first := by
  simp only [isWidening, Bool.and_comm, Bool.or_comm]

/-- Schemas that are widened have different types. -/
theorem not_same_of_isWidening (h : first.isWidening second = true) :
    first.same second = false := by
  refine Bool.eq_false_iff.mpr fun hsame => ?_
  simp only [isWidening, Bool.or_eq_true, Bool.and_eq_true, isType_eq_of_same hsame] at h
  obtain ⟨hinteger, hnumber⟩ | ⟨hnumber, hinteger⟩ := h <;>
    cases Inferrer.isType_unique hinteger hnumber

/-! ### The result of a merge -/

theorem merge_of_same (hsame : first.asObject.same second.asObject = true) :
    first.merge second = first := by
  rw [merge, if_pos hsame]

theorem merge_of_isWidening (hwiden : first.asObject.isWidening second.asObject = true) :
    first.merge second = typed .number := by
  have hdiffer := Bool.eq_false_iff.mp (not_same_of_isWidening hwiden)
  rw [merge, if_neg hdiffer, if_pos hwiden]

/-- A schema that lists the other one already is kept. -/
theorem merge_of_isIn (hdiffer : first.asObject.same second.asObject = false)
    (hwiden : first.asObject.isWidening second.asObject = false)
    (hin : second.asObject.isIn first.asObject.alternatives = true) :
    first.merge second = first.asObject := by
  rw [merge, if_neg (Bool.eq_false_iff.mp hdiffer), if_neg (Bool.eq_false_iff.mp hwiden),
    if_pos hin]

/-- A schema that is new to the alternatives of the other becomes one of them. -/
theorem merge_of_not_isIn (hdiffer : first.asObject.same second.asObject = false)
    (hwiden : first.asObject.isWidening second.asObject = false)
    (hin : second.asObject.isIn first.asObject.alternatives = false) :
    first.merge second = choice (dedup (first.joined second)) := by
  rw [merge, if_neg (Bool.eq_false_iff.mp hdiffer), if_neg (Bool.eq_false_iff.mp hwiden),
    if_neg (Bool.eq_false_iff.mp hin), joined]

end Schema

end JsonShape
