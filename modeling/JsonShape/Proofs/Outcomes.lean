import JsonShape.Proofs.Observations

/-!
# What refinements do to rearranged observations

All refinements of a property come to one of four outcomes. Which one it is depends on how many
elements there are, on the schema and on the observed values up to their order, so two runs on
rearranged observations come to the same.

Main statements: each of the three refinements keeps outcomes the same (`Refinement.steady_listing`,
`Refinement.steady_coordinates` and `Refinement.steady_timestamps`), and so do they one after the
other (`Refinement.exists_outcome_foldl`).
-/

namespace JsonShape

open Schema

namespace Refinement

variable {property : String} {samples samples' : List Json} {schema other : Schema}
  {values others : List Json}

/-! ### Outcomes -/

/-- What refinements do to a property. -/
inductive Outcome
  | kept
  | listed (type : TypeName)
  | tuple (length : Nat)
  | recent

/-- The schema that comes out for some values. -/
def Outcome.result (values : List Json) (schema : Schema) : Outcome → Schema
  | kept => schema
  | listed type => listedSchema type
      (firstsBy sameValue (values.filter fun value => value.isString || value.isNumber))
  | tuple length => tupleSchema length
  | recent => timestampSchema

/-- What is the same for equal schemas and for all lists of values is so for an outcome. -/
theorem Outcome.eq_of_respects {γ : Type} {p : Schema → γ} (outcome : Outcome)
    (values others : List Json)
    (same : ∀ schema other : Schema, schema.same other = true → p schema = p other)
    (listed : ∀ type values others, p (listedSchema type values) = p (listedSchema type others))
    (h : schema.same other = true) :
    p (outcome.result values schema) = p (outcome.result others other) := by
  cases outcome with
  | kept => exact same schema other h
  | listed type => exact listed type _ _
  | tuple length => rfl
  | recent => rfl

/-- What is listed of rearranged values is the same if listed values with one key are. -/
theorem same_listed {type : TypeName} (h : Rearranged values others)
    (hsame : ∀ a ∈ firstsBy sameValue (values.filter fun value => value.isString || value.isNumber),
      ∀ b ∈ firstsBy sameValue (others.filter fun value => value.isString || value.isNumber),
        key a = key b → a.same b = true) :
    ((Outcome.listed type).result values schema).same ((Outcome.listed type).result others other)
      = true := by
  have hvalues := fun (list : List Json) value
      (hvalue : value ∈ list.filter fun value => value.isString || value.isNumber) =>
    (List.mem_filter.mp hvalue).2
  -- the keys of the listed values are those of all values that can be listed, and these are
  -- rearranged
  have hfilter := h.filter fun a b => isListable_eq_of_same
  exact same_listedSchema (listed_firstsBy (hvalues values)) (listed_firstsBy (hvalues others))
    (hfilter.perm_keys (hvalues values) (hvalues others)) hsame

/-! ### What refinements ask of a schema -/

theorem listedType?_eq_some_iff {type : TypeName} : listedType? schema = some type ↔
    schema.isType type = true ∧ (type = .string ∨ type = .number ∨ type = .integer) := by
  refine ⟨listedType_some, ?_⟩
  rintro ⟨htype, hlistable⟩
  obtain ⟨facets, hfacets, hany⟩ := (Option.any_eq_true ..).mp htype
  obtain ⟨spec, hspec, his⟩ := (Option.any_eq_true ..).mp hany
  cases spec with
  | single found =>
    obtain rfl : found = type := beq_iff_eq.mp his
    unfold listedType?
    rw [hfacets, Option.bind_some, hspec]
    exact if_pos hlistable
  | _ => cases his

theorem listedType?_eq_of_same (h : schema.same other = true) :
    listedType? schema = listedType? other := by
  refine Option.ext fun type => ?_
  rw [listedType?_eq_some_iff, listedType?_eq_some_iff, isType_eq_of_same h]

theorem hasNumericItems_eq_of_same (h : schema.same other = true) :
    hasNumericItems schema = hasNumericItems other := by
  unfold hasNumericItems
  rw [isType_eq_of_same h]
  congr 1
  -- besides the type only the schema of the elements counts
  cases schema with
  | boolean accepts =>
    cases other with
    | boolean _ => rfl
    | object _ _ => cases h
  | object facets parts =>
    obtain ⟨facets', parts', rfl, -⟩ := same_object h
    have hitems : relateOption (Items.relate same) parts.items parts'.items = true :=
      (same_object_iff.mp h).1 .items
    simp only [parts?, Option.bind_some]
    cases hparts : parts.items with
    | none =>
      rw [hparts] at hitems
      cases hother : parts'.items with
      | none => rfl
      | some items =>
        rw [hother] at hitems
        cases hitems
    | some items =>
      rw [hparts] at hitems
      obtain ⟨items', hother, hrelate⟩ := relateOption_some hitems
      rw [hother]
      cases items with
      | single item =>
        cases items' with
        | single item' =>
          have hitem : item.same item' = true := hrelate
          show (_ || _) = (_ || _)
          rw [isType_eq_of_same hitem, isType_eq_of_same hitem]
        | tuple _ => cases hrelate
      | tuple _ =>
        cases items' with
        | single item' => cases hrelate
        | tuple _ => rfl

/-! ### Refinements one after the other -/

/-- As many elements, with the same values of a property up to order and equality. -/
structure SameObservations (property : String) (samples samples' : List Json) : Prop where
  length : samples.length = samples'.length
  observed : Rearranged (observed property samples) (observed property samples')

/-- The schema of a property after a refinement. -/
def step (refinement : Refinement) (property : String) (samples : List Json)
    (schema : Schema) : Schema :=
  (refinement.refine? property schema samples).getD schema

/-- After an outcome, the refinement comes to the same outcome on the same observations. -/
def Steady (refinement : Refinement) : Prop :=
  ∀ (property : String) (samples samples' : List Json) (schema other : Schema) (outcome : Outcome),
    SameObservations property samples samples' → schema.same other = true →
      ∃ next : Outcome,
        refinement.step property samples (outcome.result (observed property samples) schema)
            = next.result (observed property samples) schema
          ∧ refinement.step property samples' (outcome.result (observed property samples') other)
            = next.result (observed property samples') other

theorem SameObservations.length_firstsBy (h : SameObservations property samples samples') :
    (firstsBy sameValue (listable property samples)).length
      = (firstsBy sameValue (listable property samples')).length := by
  have hlistable := h.observed.filter fun a b => isListable_eq_of_same
  have hperm := hlistable.perm_keys (fun value hvalue => (List.mem_filter.mp hvalue).2)
    fun value hvalue => (List.mem_filter.mp hvalue).2
  have hlength := hperm.length_eq
  rwa [List.length_map, List.length_map] at hlength

/-- When values are listed depends on how many they are. -/
theorem refine?_listing {minItems maxValues : Nat} {maxRatio : Binary64} :
    let values := firstsBy sameValue (listable property samples)
    (listing minItems maxValues maxRatio).refine? property schema samples =
      if minItems ≤ samples.length ∧ values.length ≤ maxValues ∧ 1 < values.length
          ∧ belowShare values.length samples.length maxRatio = true then
        (listedType? schema).map fun type => listedSchema type values
      else none := by
  intro values
  have hdistinct : distinct? maxValues ((observed property samples).filter fun value =>
      value.isString || value.isNumber)
      = if values.length ≤ maxValues then some values else none := distinct?_eq ..
  unfold listing
  dsimp only
  rw [hdistinct]
  -- the conditions are asked one after the other, and the pass over the values may give up before
  -- the last
  by_cases hmin : samples.length < minItems
  · rw [if_pos hmin, if_neg fun h => absurd h.1 (Nat.not_le.mpr hmin)]
  · rw [if_neg hmin]
    by_cases hmax : values.length ≤ maxValues
    · rw [if_pos hmax]
      have hcond : (1 < values.length && belowShare values.length samples.length maxRatio) = true ↔
          minItems ≤ samples.length ∧ values.length ≤ maxValues ∧ 1 < values.length
            ∧ belowShare values.length samples.length maxRatio = true := by
        simp [Nat.not_lt.mp hmin, hmax]
      simp only [← hcond]
      cases listedType? schema with
      | none => exact (ite_self none).symm
      | some type => rfl
    · rw [if_neg hmax, if_neg fun h => hmax h.2.1]
      cases listedType? schema <;> rfl

theorem step_listing {minItems maxValues : Nat} {maxRatio : Binary64} :
    let values := firstsBy sameValue (listable property samples)
    (listing minItems maxValues maxRatio).step property samples schema =
      if minItems ≤ samples.length ∧ values.length ≤ maxValues ∧ 1 < values.length
          ∧ belowShare values.length samples.length maxRatio = true then
        (listedType? schema).elim schema fun type => listedSchema type values
      else schema := by
  intro values
  rw [step, refine?_listing]
  split
  · cases listedType? schema <;> rfl
  · rfl

theorem steady_listing (minItems maxValues : Nat) (maxRatio : Binary64) :
    (listing minItems maxValues maxRatio).Steady := by
  intro property samples samples' schema other outcome h hsame
  -- what the refinement asks of a schema is the same after the outcomes so far
  have htype := outcome.eq_of_respects (observed property samples)
    (observed property samples') (fun _ _ => listedType?_eq_of_same)
    (fun type values others => rfl) hsame
  rw [step_listing, step_listing, htype, h.length_firstsBy, h.length]
  split
  · cases listedType? (outcome.result (observed property samples') other) with
    | none => exact ⟨outcome, rfl, rfl⟩
    | some type => exact ⟨.listed type, rfl, rfl⟩
  · exact ⟨outcome, rfl, rfl⟩

theorem steady_coordinates (pattern : Regex) : (coordinates pattern).Steady := by
  intro property samples samples' schema other outcome h hsame
  have hitems := outcome.eq_of_respects (observed property samples)
    (observed property samples') (fun _ _ => hasNumericItems_eq_of_same)
    (fun type values others => rfl) hsame
  unfold step coordinates
  dsimp only
  rw [hitems, h.observed.commonLength?_eq]
  split
  · cases commonLength? (observed property samples') with
    | none => exact ⟨outcome, rfl, rfl⟩
    | some length => exact ⟨.tuple length, rfl, rfl⟩
  · exact ⟨outcome, rfl, rfl⟩

theorem steady_timestamps (pattern : Regex) (floor : Int) : (timestamps pattern floor).Steady := by
  intro property samples samples' schema other outcome h hsame
  have htype := outcome.eq_of_respects (observed property samples)
    (observed property samples') (fun _ _ hsame => isType_eq_of_same hsame .integer)
    (fun type values others => rfl) hsame
  unfold step timestamps
  dsimp only
  rw [htype, h.observed.all_eq fun a b => isRecent_eq_of_same]
  split
  · exact ⟨.recent, rfl, rfl⟩
  · exact ⟨outcome, rfl, rfl⟩

/-- Steady refinements, one after the other, come to the same outcome on the same observations. -/
theorem exists_outcome_foldl {refinements : List Refinement}
    (steady : ∀ refinement ∈ refinements, refinement.Steady) (outcome : Outcome)
    (h : SameObservations property samples samples') (hsame : schema.same other = true) :
    ∃ last : Outcome,
      refinements.foldl (fun schema refinement => refinement.step property samples schema)
          (outcome.result (observed property samples) schema)
        = last.result (observed property samples) schema
      ∧ refinements.foldl (fun schema refinement => refinement.step property samples' schema)
          (outcome.result (observed property samples') other)
        = last.result (observed property samples') other := by
  -- each refinement starts from the outcome of those before
  induction refinements generalizing outcome with
  | nil => exact ⟨outcome, rfl, rfl⟩
  | cons refinement rest ih =>
    rw [List.forall_mem_cons] at steady
    obtain ⟨next, hnext, hnext'⟩ := steady.1 _ _ _ _ _ outcome h hsame
    rw [List.foldl_cons, List.foldl_cons, hnext, hnext']
    exact ih steady.2 next

end Refinement

namespace Inferrer

open Refinement

/-- Whatever the settings are, two runs on the same observations have the same outcome. -/
theorem exists_outcome {config : InferenceConfig} {clockMs : Int} {inferrer : Inferrer}
    (hconfig : ofConfig config clockMs = .ok inferrer) {property : String}
    {samples samples' : List Json} {schema other : Schema}
    (h : SameObservations property samples samples') (hsame : schema.same other = true) :
    ∃ outcome : Outcome,
      inferrer.refine samples property schema = outcome.result (observed property samples) schema
        ∧ inferrer.refine samples' property other
          = outcome.result (observed property samples') other := by
  obtain ⟨places, times, floor, hrefinements⟩ := refinements_ofConfig hconfig
  have steady : ∀ refinement ∈ inferrer.refinements, refinement.Steady := by
    rw [hrefinements]
    simp only [List.forall_mem_cons]
    exact ⟨steady_listing _ _ _, steady_coordinates _, steady_timestamps _ _, by simp⟩
  exact exists_outcome_foldl steady .kept h hsame

/-- Two runs on the same observations give equal schemas, unless both list values. -/
theorem same_refine_or_listed {config : InferenceConfig} {clockMs : Int} {inferrer : Inferrer}
    (hconfig : ofConfig config clockMs = .ok inferrer) {property : String}
    {samples samples' : List Json} {schema other : Schema} (emitted : schema.Emitted)
    (h : SameObservations property samples samples') (hsame : schema.same other = true) :
    (inferrer.refine samples property schema).same (inferrer.refine samples' property other) = true
      ∨ ∃ type, inferrer.refine samples property schema
            = (Outcome.listed type).result (observed property samples) schema
          ∧ inferrer.refine samples' property other
            = (Outcome.listed type).result (observed property samples') other := by
  obtain ⟨outcome, heq, heq'⟩ := exists_outcome hconfig h hsame
  -- a fixed schema comes out twice, and an inferred one is equal to itself
  have hself := (emitted_of_refined (refined_refine hconfig samples property schema)
    emitted).tidy.same_self
  cases outcome with
  | kept => exact .inl (by rwa [heq, heq'])
  | listed type => exact .inr ⟨type, heq, heq'⟩
  | tuple length =>
    have hfixed : inferrer.refine samples' property other = tupleSchema length := heq'
    rw [heq] at hself ⊢
    exact .inl (hfixed ▸ hself)
  | recent =>
    have hfixed : inferrer.refine samples' property other = timestampSchema := heq'
    rw [heq] at hself ⊢
    exact .inl (hfixed ▸ hself)

end Inferrer

end JsonShape
