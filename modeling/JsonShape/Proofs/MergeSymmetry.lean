import JsonShape.Proofs.MergeOutcomes

/-!
# The order of two schemas that are merged

A merge takes the alternatives of the first schema apart but not those of the second, which becomes
an alternative as a whole. The order of the two therefore matters as soon as one of them has
alternatives: a schema is never equal to one of its own alternatives, so what is listed after one
merge is nested after the other. Only an empty list of alternatives makes an exception, and two
schemas without alternatives are merged into the same set in either order.

Main statement: `Schema.merge_comm_iff` says exactly which pairs of schemas can be merged in either
order.
-/

namespace JsonShape

namespace Parts

variable {α β : Type}

/-- The parts without the list of alternatives. -/
def withoutOneOf (parts : Parts α) : Parts α := { parts with oneOf := none }

theorem map?_withoutOneOf (parts : Parts α) (k : MapKeyword) :
    parts.withoutOneOf.map? k = parts.map? k := by
  cases k <;> rfl

theorem single?_withoutOneOf (parts : Parts α) (k : SingleKeyword) :
    parts.withoutOneOf.single? k = parts.single? k := by
  cases k <;> rfl

/-- Related parts are so without the alternatives, and in the alternatives. -/
theorem relate_eq_withoutOneOf (related : α → β → Bool) (parts : Parts α) (others : Parts β) :
    parts.relate related others = (parts.withoutOneOf.relate related others.withoutOneOf
      && relateOption (relateList related) parts.oneOf others.oneOf) := by
  have hlists : ListKeyword.all.all (fun k =>
        relateOption (relateList related) (parts.list? k) (others.list? k))
      = (ListKeyword.all.all (fun k => relateOption (relateList related)
          (parts.withoutOneOf.list? k) (others.withoutOneOf.list? k))
        && relateOption (relateList related) parts.oneOf others.oneOf) := by
    simp [ListKeyword.all, list?, withoutOneOf, relateOption, Bool.and_assoc]
  have hitems : relateOption (Items.relate related) parts.items others.items
      = relateOption (Items.relate related) parts.withoutOneOf.items others.withoutOneOf.items :=
    rfl
  simp only [relate, map?_withoutOneOf, single?_withoutOneOf]
  rw [hlists, hitems, Bool.eq_iff_iff]
  simp only [Bool.and_eq_true]
  tauto

end Parts

namespace Schema

variable {first second schema : Schema} {as bs : List Schema}

/-! ### Lists as sets -/

/-- Two lists hold equal schemas, in whatever order and number. -/
def SameSet (as bs : List Schema) : Prop :=
  (∀ a ∈ as, a.isIn bs = true) ∧ ∀ b ∈ bs, b.isIn as = true

theorem isIn_trans {other : Schema} (h : other.isIn as = true) (hsame : other.same schema = true) :
    schema.isIn as = true := by
  obtain ⟨found, hfound, hother⟩ := isIn_iff.mp h
  exact isIn_iff.mpr ⟨found, hfound, same_trans hother hsame⟩

/-- Equal sets hold the same schemas. -/
theorem SameSet.isIn_iff_isIn (h : SameSet as bs) :
    schema.isIn as = true ↔ schema.isIn bs = true := by
  constructor
  · intro hin
    obtain ⟨a, ha, hsame⟩ := isIn_iff.mp hin
    exact isIn_trans (h.1 a ha) hsame
  · intro hin
    obtain ⟨b, hb, hsame⟩ := isIn_iff.mp hin
    exact isIn_trans (h.2 b hb) hsame

theorem isIn_dedup : schema.isIn (dedup as) = true ↔ schema.isIn as = true := by
  constructor
  · intro hin
    obtain ⟨a, ha, hsame⟩ := isIn_iff.mp hin
    exact isIn_iff.mpr ⟨a, mem_of_mem_dedup ha, hsame⟩
  · intro hin
    obtain ⟨a, ha, hsame⟩ := isIn_iff.mp hin
    obtain ⟨kept, hkept, rfl | hkeptSame⟩ := exists_mem_dedup ha
    · exact isIn_iff.mpr ⟨kept, hkept, hsame⟩
    · exact isIn_iff.mpr ⟨kept, hkept, same_trans hkeptSame hsame⟩

/-! ### Equality up to the order of alternatives -/

/-- The schema with its list of alternatives taken away. -/
def withoutOneOf : Schema → Schema
  | boolean accepts => boolean accepts
  | object facets parts => object facets parts.withoutOneOf

/-- Two schemas are equal once the lists of alternatives at their tops, if any, are compared as
sets. -/
def SameAsSets (first second : Schema) : Prop :=
  first.withoutOneOf.same second.withoutOneOf = true ∧ Option.Rel SameSet first.oneOf? second.oneOf?

/-- Equality compares the alternatives, and everything else without them. -/
theorem same_iff_withoutOneOf : first.same second = true ↔
    first.withoutOneOf.same second.withoutOneOf = true
      ∧ relateOption (relateList same) first.oneOf? second.oneOf? = true := by
  cases first with
  | boolean accepts =>
    cases second with
    | boolean other => simp [withoutOneOf, oneOf?, parts?, relateOption]
    | object facets parts => exact iff_of_false Bool.false_ne_true fun h => Bool.false_ne_true h.1
  | object facets parts =>
    cases second with
    | boolean other => exact iff_of_false Bool.false_ne_true fun h => Bool.false_ne_true h.1
    | object facets' parts' =>
      rw [withoutOneOf, withoutOneOf, same_object_eq, same_object_eq, Parts.relate_eq_withoutOneOf,
        ← Bool.and_assoc, Bool.and_eq_true]
      exact Iff.rfl

theorem sameAsSets_of_same (unique : first.UniqueNames) (h : first.same second = true) :
    first.SameAsSets second := by
  obtain ⟨hwithout, honeOf⟩ := same_iff_withoutOneOf.mp h
  refine ⟨hwithout, ?_⟩
  obtain ⟨hfirst, hsecond⟩ | ⟨as, bs, hfirst, hsecond, hpairs⟩ := relateOption_cases honeOf
  · rw [hfirst, hsecond]
    exact .none
  · rw [hfirst, hsecond]
    rw [relateList_iff] at hpairs
    refine .some ⟨fun a ha => ?_, fun b hb => ?_⟩
    · obtain ⟨b, hb, hsame⟩ := exists_of_mem_forall₂ hpairs ha
      exact isIn_iff.mpr ⟨b, hb, (unique.of_mem_oneOf? hfirst ha).same_symm hsame⟩
    · obtain ⟨a, ha, hsame⟩ := exists_of_mem_forall₂_right hpairs hb
      exact isIn_iff.mpr ⟨a, ha, hsame⟩

/-- The lists of alternatives of both hold the same schemas. -/
theorem SameAsSets.isIn_iff_isIn (h : first.SameAsSets second) (hfirst : first.oneOf? = some as)
    (hsecond : second.oneOf? = some bs) : schema.isIn as = true ↔ schema.isIn bs = true := by
  have hsets := h.2
  rw [hfirst, hsecond] at hsets
  cases hsets with
  | some hset => exact hset.isIn_iff_isIn

theorem SameAsSets.exists_oneOf? (h : first.SameAsSets second) :
    (∃ as, first.oneOf? = some as) ↔ ∃ bs, second.oneOf? = some bs := by
  have hsets := h.2
  generalize first.oneOf? = x, second.oneOf? = y at hsets ⊢
  cases hsets <;> simp

/-! ### What a merge lists -/

/-- A schema is listed among its alternatives only if it has none and is its own. -/
theorem oneOf?_eq_none_of_isIn (h : schema.isIn schema.alternatives = true) :
    schema.oneOf? = none := by
  cases honeOf : schema.oneOf? with
  | none => rfl
  | some as =>
    rw [alternatives_of_oneOf? honeOf] at h
    obtain ⟨a, ha, hsame⟩ := isIn_iff.mp h
    rw [(not_same_of_mem_oneOf? honeOf ha).1] at hsame
    cases hsame

/-- A schema that is new to some alternatives makes a choice with them. -/
theorem choice_dedup_append (hin : schema.isIn as = false) (hne : as ≠ []) :
    choice (dedup (as ++ [schema])) = oneOf (dedup as ++ [schema]) := by
  have hnew : ¬ schema.isIn (dedup as) = true := by
    rw [isIn_dedup, hin]
    exact Bool.false_ne_true
  rw [dedup_append_singleton, addNew, if_neg hnew]
  obtain ⟨single, hsingle, -⟩ | ⟨-, hchoice⟩ := choice_cases (dedup as ++ [schema])
  · have hlength := congrArg List.length hsingle
    have hpositive := List.length_pos_of_ne_nil (dedup_ne_nil hne)
    simp only [List.length_append, List.length_singleton] at hlength
    omega
  · exact hchoice

/-- Schemas that are neither equal nor widened: a merge lists the second among the alternatives, and
the first only if it has no alternatives of its own. Only if these are none, the second takes the
place of the first. -/
theorem merge_listing (unique : second.UniqueNames)
    (hdiffer : first.asObject.same second.asObject = false)
    (hwiden : first.asObject.isWidening second.asObject = false) :
    (first.asObject.oneOf? = some [] ∧ first.merge second = second.asObject)
      ∨ ∃ as, (first.merge second).oneOf? = some as ∧ second.asObject.isIn as = true
        ∧ (first.asObject.isIn as = true → first.asObject.oneOf? = none) := by
  cases hin : second.asObject.isIn first.asObject.alternatives with
  | true =>
    -- the first schema is kept, so it lists the second and, as any, not itself
    rw [merge_of_isIn hdiffer hwiden hin]
    obtain ⟨as, honeOf, hlisted⟩ := exists_oneOf?_of_isIn hdiffer hin
    refine .inr ⟨as, honeOf, hlisted, fun hown => oneOf?_eq_none_of_isIn ?_⟩
    rwa [alternatives_of_oneOf? honeOf]
  | false =>
    rw [merge_of_not_isIn hdiffer hwiden hin, joined]
    by_cases hempty : first.asObject.alternatives = []
    · rw [hempty]
      exact .inl ⟨alternatives_eq_nil_iff.mp hempty, rfl⟩
    · rw [choice_dedup_append hin hempty]
      refine .inr ⟨_, rfl, ?_, fun hown => ?_⟩
      · exact isIn_iff.mpr ⟨_, List.mem_append_right _ (List.mem_singleton_self _),
          unique.asObject.same_self⟩
      · obtain ⟨a, ha, hsame⟩ := isIn_iff.mp hown
        rcases List.mem_append.mp ha with hold | hnew
        · exact oneOf?_eq_none_of_isIn (isIn_iff.mpr ⟨a, mem_of_mem_dedup hold, hsame⟩)
        · rw [List.mem_singleton.mp hnew, unique.asObject.not_same_symm hdiffer] at hsame
          cases hsame

/-! ### Either order -/

/-- The pairs of schemas that are merged into the same in either order. -/
inductive Commuting (first second : Schema) : Prop
  | equal : first.same second = true → Commuting first second
  /-- One is just for integers, the other just for numbers. -/
  | widened : first.asObject.isWidening second.asObject = true → Commuting first second
  /-- Neither has alternatives. -/
  | plain : first.asObject.same second.asObject = false → first.asObject.oneOf? = none →
      second.asObject.oneOf? = none → Commuting first second
  /-- The first has an empty list of alternatives, and is itself listed by the second. -/
  | emptyFirst : first.asObject.oneOf? = some [] →
      first.asObject.isIn second.asObject.alternatives = true → Commuting first second
  /-- The second has an empty list of alternatives, and is itself listed by the first. -/
  | emptySecond : second.asObject.oneOf? = some [] →
      second.asObject.isIn first.asObject.alternatives = true → Commuting first second

theorem same_asObject (h : first.same second = true) :
    first.asObject.same second.asObject = true := by
  cases first with
  | boolean accepts =>
    cases second with
    | boolean other => exact (uniqueNames_typed .null).same_self
    | object facets parts => cases h
  | object facets parts =>
    obtain ⟨facets', parts', rfl, -⟩ := same_object h
    exact h

/-- A boolean schema is not the same set as an object schema, even if that is its placeholder. -/
theorem same_of_asObject (hobjects : first.asObject.same second.asObject = true)
    (h : first.SameAsSets second) : first.same second = true := by
  cases first with
  | boolean accepts =>
    cases second with
    | boolean other => exact h.1
    | object facets parts => cases h.1
  | object facets parts =>
    cases second with
    | boolean other => cases h.1
    | object facets' parts' => exact hobjects

/-- Schemas without alternatives become these, in their order. -/
theorem merge_of_plain (hdiffer : first.asObject.same second.asObject = false)
    (hwiden : first.asObject.isWidening second.asObject = false)
    (hfirst : first.asObject.oneOf? = none) :
    first.merge second = oneOf [first.asObject, second.asObject] := by
  have halternatives := alternatives_of_none hfirst
  have hnotIn : second.asObject.isIn first.asObject.alternatives = false := by
    rw [halternatives, isIn, List.any_cons, List.any_nil, hdiffer]
    rfl
  rw [merge_of_not_isIn hdiffer hwiden hnotIn, joined,
    choice_dedup_append hnotIn (by simp [halternatives]), halternatives]
  rfl

/-- Of equal schemas both or none have an empty list of alternatives. -/
theorem oneOf?_eq_nil_iff_of_same (h : first.same second = true) :
    first.oneOf? = some [] ↔ second.oneOf? = some [] := by
  obtain ⟨hfirst, hsecond⟩ | ⟨as, bs, hfirst, hsecond, hpairs⟩ :=
    relateOption_cases (relate_oneOf? h)
  · rw [hfirst, hsecond]
  · have hlength := (relateList_iff.mp hpairs).length_eq
    rw [hfirst, hsecond, Option.some_inj, Option.some_inj, ← List.length_eq_zero_iff, hlength,
      List.length_eq_zero_iff]

/-- A schema with an empty list of alternatives gives way to the one that lists it. -/
theorem merge_of_empty (hempty : first.asObject.oneOf? = some [])
    (hin : first.asObject.isIn second.asObject.alternatives = true)
    (hwiden : first.asObject.isWidening second.asObject = false) :
    first.merge second = second.asObject ∧ second.merge first = second.asObject := by
  have halternatives := alternatives_of_oneOf? hempty
  -- equal schemas would both have an empty list, which lists nothing
  have hlists : second.asObject.oneOf? ≠ some [] := by
    intro hnone
    rw [alternatives_of_oneOf? hnone] at hin
    cases hin
  have hdiffer : first.asObject.same second.asObject = false :=
    Bool.eq_false_iff.mpr fun hsame => hlists ((oneOf?_eq_nil_iff_of_same hsame).mp hempty)
  have hdiffer' : second.asObject.same first.asObject = false :=
    Bool.eq_false_iff.mpr fun hsame => hlists ((oneOf?_eq_nil_iff_of_same hsame).mpr hempty)
  constructor
  · have hnotIn : second.asObject.isIn first.asObject.alternatives = false := by
      rw [halternatives]
      rfl
    rw [merge_of_not_isIn hdiffer hwiden hnotIn, joined, halternatives]
    rfl
  · exact merge_of_isIn hdiffer' (by rwa [isWidening_comm]) hin

theorem sameAsSets_of_commuting (unique : first.UniqueNames) (unique' : second.UniqueNames)
    (h : Commuting first second) : (first.merge second).SameAsSets (second.merge first) := by
  have hself := unique.asObject.same_self
  have hself' := unique'.asObject.same_self
  by_cases hwiden : first.asObject.isWidening second.asObject = true
  · rw [merge_of_isWidening hwiden, merge_of_isWidening (by rwa [isWidening_comm])]
    exact sameAsSets_of_same (uniqueNames_typed .number) (uniqueNames_typed .number).same_self
  have hwiden := Bool.eq_false_iff.mpr hwiden
  have hwiden' : second.asObject.isWidening first.asObject = false := by rwa [isWidening_comm]
  cases h with
  | equal hsame =>
    have hobjects := same_asObject hsame
    rw [merge_of_same hobjects, merge_of_same (unique.asObject.same_symm hobjects)]
    exact sameAsSets_of_same unique hsame
  | widened hwide =>
    rw [hwiden] at hwide
    cases hwide
  | plain hdiffer hfirst hsecond =>
    have hdiffer' := unique'.asObject.not_same_symm hdiffer
    rw [merge_of_plain hdiffer hwiden hfirst, merge_of_plain hdiffer' hwiden' hsecond]
    refine ⟨rfl, .some ?_⟩
    simp [SameSet, isIn, hself, hself']
  | emptyFirst hempty hin =>
    obtain ⟨hmerge, hmerge'⟩ := merge_of_empty hempty hin hwiden
    rw [hmerge, hmerge']
    exact sameAsSets_of_same unique'.asObject hself'
  | emptySecond hempty hin =>
    obtain ⟨hmerge, hmerge'⟩ := merge_of_empty hempty hin hwiden'
    rw [hmerge, hmerge']
    exact sameAsSets_of_same unique.asObject hself

theorem commuting_of_sameAsSets (unique : first.UniqueNames) (unique' : second.UniqueNames)
    (h : (first.merge second).SameAsSets (second.merge first)) : Commuting first second := by
  by_cases hsame : first.asObject.same second.asObject = true
  · rw [merge_of_same hsame, merge_of_same (unique.asObject.same_symm hsame)] at h
    exact .equal (same_of_asObject hsame h)
  by_cases hwiden : first.asObject.isWidening second.asObject = true
  · exact .widened hwiden
  have hdiffer := Bool.eq_false_iff.mpr hsame
  have hdiffer' := unique'.asObject.not_same_symm hdiffer
  have hwiden := Bool.eq_false_iff.mpr hwiden
  have hwiden' : second.asObject.isWidening first.asObject = false := by rwa [isWidening_comm]
  -- what one merge lists the other one lists as well
  obtain ⟨hempty, hmerge⟩ | ⟨as, has, hsecond, hfirst⟩ :=
    merge_listing unique' hdiffer hwiden <;>
  obtain ⟨hempty', hmerge'⟩ | ⟨bs, hbs, hfirst', hsecond'⟩ :=
    merge_listing unique hdiffer' hwiden'
  · rw [hmerge, hmerge'] at h
    refine absurd (same_iff_withoutOneOf.mpr ⟨h.1, ?_⟩) (Bool.eq_false_iff.mp hdiffer')
    rw [hempty, hempty']
    rfl
  · obtain ⟨as, has⟩ := h.exists_oneOf?.mpr ⟨bs, hbs⟩
    have hin := (h.isIn_iff_isIn has hbs).mpr hfirst'
    rw [hmerge] at has
    refine .emptyFirst hempty ?_
    rwa [alternatives_of_oneOf? has]
  · obtain ⟨bs, hbs⟩ := h.exists_oneOf?.mp ⟨as, has⟩
    have hin := (h.isIn_iff_isIn has hbs).mp hsecond
    rw [hmerge'] at hbs
    refine .emptySecond hempty' ?_
    rwa [alternatives_of_oneOf? hbs]
  · exact .plain hdiffer (hfirst ((h.isIn_iff_isIn has hbs).mpr hfirst'))
      (hsecond' ((h.isIn_iff_isIn has hbs).mp hsecond))

/-- Two schemas are merged into the same in either order, up to the order of alternatives, exactly
if they commute. -/
theorem merge_comm_iff (unique : first.UniqueNames) (unique' : second.UniqueNames) :
    (first.merge second).SameAsSets (second.merge first) ↔ Commuting first second :=
  ⟨commuting_of_sameAsSets unique unique', sameAsSets_of_commuting unique unique'⟩

theorem merge_comm_textAndFlag :
    (typed .string).UniqueNames ∧ (typed .boolean).UniqueNames
      ∧ ((typed .string).merge (typed .boolean)).SameAsSets
        ((typed .boolean).merge (typed .string)) :=
  ⟨uniqueNames_typed _, uniqueNames_typed _,
    (merge_comm_iff (uniqueNames_typed _) (uniqueNames_typed _)).mpr (.plain rfl rfl rfl)⟩

/-- After one merge the alternatives of the choice are nested, after the other they are not. -/
theorem merge_null_textOrFlag :
    ¬ ((typed .null).merge (oneOf [typed .string, typed .boolean])).SameAsSets
      ((oneOf [typed .string, typed .boolean]).merge (typed .null)) := by
  intro h
  have hfirst : ((typed .null).merge (oneOf [typed .string, typed .boolean])).oneOf?
      = some [typed .null, oneOf [typed .string, typed .boolean]] := rfl
  have hsecond : ((oneOf [typed .string, typed .boolean]).merge (typed .null)).oneOf?
      = some [typed .string, typed .boolean, typed .null] := rfl
  have hin : (typed .string).isIn [typed .null, oneOf [typed .string, typed .boolean]] = true :=
    (h.isIn_iff_isIn hfirst hsecond).mpr rfl
  cases hin

end Schema

end JsonShape
