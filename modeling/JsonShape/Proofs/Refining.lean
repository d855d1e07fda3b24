import JsonShape.Proofs.Merging

/-!
# What refining keeps

A refinement replaces the schema of a property only if the values that were observed allow it. Here
is said once what each of the three refinements does (`Refinement.listing_some`,
`Refinement.coordinates_some` and `Refinement.timestamps_some`), and from it what a property can
become after all of them (`Inferrer.refined_refine`).

Main statement: `Refinement.holds_of_refined`, in the lax reading, a refined schema holds of every
observed value of which the schema held before.
-/

namespace JsonShape

namespace Refinement

open Schema

variable {property : String} {schema refined : Schema} {samples : List Json} {value : Json}

theorem mem_observed : value ∈ observed property samples ↔
    ∃ sample ∈ samples, sample.member? property = some value :=
  List.mem_filterMap

/-! ### Listed values -/

/-- The values of a property that can be listed. -/
def listable (property : String) (samples : List Json) : List Json :=
  (observed property samples).filter fun value => value.isString || value.isNumber

/-- A type and the values that are listed. -/
def listedSchema (type : TypeName) (values : List Json) : Schema :=
  .object { type := some (.single type), choices := some (values.mergeSort valueLe) } {}

/-- The values of a list, each once, unless there are too many. -/
theorem distinct?_eq (limit : Nat) (values : List Json) :
    distinct? limit values = if (firstsBy sameValue values).length ≤ limit
      then some (firstsBy sameValue values) else none := by
  induction values using List.reverseRecOn with
  | nil => rfl
  | append_singleton rest last ih =>
    have hstep : distinct? limit (rest ++ [last])
        = (distinct? limit rest).bind fun seen => addDistinct limit seen last := by
      simp [distinct?, List.foldlM_append]
    rw [hstep, ih, firstsBy_append_singleton]
    generalize firstsBy sameValue rest = seen
    unfold addFirst
    split
    · next hfew =>
      show addDistinct limit seen last = _
      unfold addDistinct
      split
      · rfl
      · rw [List.length_append, List.length_singleton]
        rfl
    · next hmany =>
      -- once there are too many values there stay too many
      have hmore : ¬ (if seen.any (sameValue · last) then seen else seen ++ [last]).length
          ≤ limit := by
        split
        · exact hmany
        · rw [List.length_append]
          omega
      exact (if_neg hmore).symm

/-- Every value is listed or equal to a listed one, and only values are listed. -/
theorem distinct_some {limit : Nat} {values result : List Json}
    (h : distinct? limit values = some result) :
    (∀ value ∈ values, ∃ listed ∈ result, listed = value ∨ sameValue listed value = true)
      ∧ ∀ listed ∈ result, listed ∈ values := by
  rw [distinct?_eq] at h
  split at h
  · cases h
    exact ⟨fun _ => exists_mem_firstsBy, fun _ => mem_of_mem_firstsBy⟩
  · cases h

theorem listing_some {minItems maxValues : Nat} {maxRatio : Binary64}
    (h : (listing minItems maxValues maxRatio).refine? property schema samples = some refined) :
    ∃ type values, listedType? schema = some type
      ∧ distinct? maxValues (listable property samples) = some values
      ∧ refined = listedSchema type values := by
  unfold listing at h
  dsimp only at h
  split at h
  · cases h
  · obtain ⟨type, htype, hvalues⟩ := Option.bind_eq_some_iff.mp h
    obtain ⟨values, hdistinct, hrefined⟩ := Option.bind_eq_some_iff.mp hvalues
    split at hrefined
    · cases hrefined
      exact ⟨type, values, htype, hdistinct, rfl⟩
    · cases hrefined

/-- The type of a schema whose values can be listed is its only one, and one of strings or numbers.
-/
theorem listedType_some {type : TypeName} (h : listedType? schema = some type) :
    schema.isType type = true ∧ (type = .string ∨ type = .number ∨ type = .integer) := by
  unfold listedType? at h
  split at h
  · next found hfound =>
    split at h
    · next hlistable =>
      cases h
      refine ⟨?_, hlistable⟩
      obtain ⟨facets, hfacets, htype⟩ := Option.bind_eq_some_iff.mp hfound
      rw [isType, hfacets]
      show facets.type.any _ = true
      rw [htype]
      exact beq_self_eq_true _
    · cases h
  · cases h

theorem sameValue_refl_of_isListable (h : (value.isString || value.isNumber) = true) :
    sameValue value value = true := by
  cases value with
  | number number => exact beq_self_eq_true _
  | string text => exact beq_self_eq_true _
  | _ => cases h

theorem isListable_of_hasValue {type : TypeName}
    (htype : type = .string ∨ type = .number ∨ type = .integer)
    (h : type.hasValue value = true) : (value.isString || value.isNumber) = true := by
  rcases htype with rfl | rfl | rfl <;> cases value <;> first | rfl | cases h

/-! ### Coordinates -/

theorem tupleLength_some {length : Nat} (h : tupleLength? value = some length) :
    ∃ elements, value = .array elements ∧ elements.length = length
      ∧ (length = 2 ∨ length = 3) ∧ ∀ element ∈ elements, element.isNumber = true := by
  unfold tupleLength? at h
  split at h
  · next elements =>
    split at h
    · next hnumbers =>
      cases h
      exact ⟨elements, rfl, rfl, hnumbers.1, List.all_eq_true.mp hnumbers.2⟩
    · cases h
  · cases h

theorem commonLength_some {values : List Json} {length : Nat}
    (h : commonLength? values = some length) :
    ∀ value ∈ values, tupleLength? value = some length := by
  unfold commonLength? at h
  split at h
  · cases h
  · next first rest =>
    obtain ⟨found, hfirst, hrest⟩ := Option.bind_eq_some_iff.mp h
    split at hrest
    · next hall =>
      cases hrest
      rw [List.forall_mem_cons]
      refine ⟨hfirst, fun value hvalue => ?_⟩
      exact beq_iff_eq.mp (List.all_eq_true.mp hall value hvalue)
    · cases hrest

theorem commonLength_le {values : List Json} {length : Nat}
    (h : commonLength? values = some length) : length ≤ 3 := by
  cases values with
  | nil => cases h
  | cons first rest =>
    obtain ⟨_, _, _, hlength, _⟩ := tupleLength_some (commonLength_some h first List.mem_cons_self)
    omega

theorem coordinates_some {pattern : Regex}
    (h : (coordinates pattern).refine? property schema samples = some refined) :
    ∃ length, commonLength? (observed property samples) = some length
      ∧ refined = tupleSchema length := by
  unfold coordinates at h
  dsimp only at h
  split at h
  · obtain ⟨length, hlength, hrefined⟩ := Option.map_eq_some_iff.mp h
    exact ⟨length, hlength, hrefined.symm⟩
  · cases h

/-! ### Timestamps -/

theorem timestamps_some {pattern : Regex} {floor : Int}
    (h : (timestamps pattern floor).refine? property schema samples = some refined) :
    (∀ value ∈ observed property samples, isRecent floor value = true)
      ∧ refined = timestampSchema := by
  unfold timestamps at h
  dsimp only at h
  split at h
  · next hrecent =>
    cases h
    rw [Bool.and_eq_true] at hrecent
    exact ⟨List.all_eq_true.mp hrecent.2, rfl⟩
  · cases h

theorem hasValue_of_isRecent {floor : Int} (h : isRecent floor value = true) :
    TypeName.integer.hasValue value = true := by
  cases value with
  | number number =>
    rw [isRecent, Bool.and_eq_true] at h
    exact h.1
  | _ => cases h

/-! ### All refinements -/

/-- What the schema of a property can become. -/
inductive Refined (property : String) (samples : List Json) (schema : Schema) : Schema → Prop
  | kept : Refined property samples schema schema
  | listed {type values limit} : listedType? schema = some type →
      distinct? limit (listable property samples) = some values →
      Refined property samples schema (listedSchema type values)
  | tuple {length} : commonLength? (observed property samples) = some length →
      Refined property samples schema (tupleSchema length)
  | recent {floor} : (∀ value ∈ observed property samples, isRecent floor value = true) →
      Refined property samples schema timestampSchema

/-! ### What refined schemas hold of -/

variable {reading : Reading}

theorem hasValue_of_holds {type : TypeName} (htype : schema.isType type = true)
    (h : schema.holds reading value = true) : type.hasValue value = true := by
  cases schema with
  | boolean accepts => cases htype
  | object facets parts =>
    have hadmits := admits_facets.mp (holds_object.mp h).1
    have hfacets : facets.type.any (·.is type) = true := htype
    obtain ⟨spec, hspec, his⟩ := (Option.any_eq_true ..).mp hfacets
    have hallows : spec.allows value = true := by
      simpa [hspec] using hadmits.1
    cases spec with
    | single found =>
      have heq : found = type := beq_iff_eq.mp his
      rw [← heq]
      exact hallows
    | _ => cases his

theorem mem_mergeSort_any {values : List Json} {p : Json → Bool} :
    (values.mergeSort valueLe).any p = true ↔ ∃ listed ∈ values, p listed = true := by
  rw [List.any_eq_true]
  simp only [List.mem_mergeSort]

theorem isListed_of_holds {type : TypeName} {values : List Json}
    (h : (listedSchema type values).holds reading value = true) :
    ∃ listed ∈ values, reading.isListed listed value = true := by
  have hadmits := admits_facets.mp (holds_object.mp h).1
  exact mem_mergeSort_any.mp hadmits.2.1

theorem holds_listedSchema {type : TypeName} {values : List Json}
    (htype : type = .string ∨ type = .number ∨ type = .integer) :
    (listedSchema type values).holds reading value = true ↔
      type.hasValue value = true ∧ ∃ listed ∈ values, reading.isListed listed value = true := by
  constructor
  · intro h
    have hadmits := admits_facets.mp (holds_object.mp h).1
    exact ⟨hadmits.1, isListed_of_holds h⟩
  · rintro ⟨hvalue, hlisted⟩
    have hlistable := isListable_of_hasValue htype hvalue
    refine holds_object.mpr ⟨admits_facets.mpr ⟨hvalue, mem_mergeSort_any.mpr hlisted, ?_, ?_⟩,
      admits_parts.mpr ⟨?_, ?_, ?_⟩⟩
    · rintro members rfl
      cases hlistable
    · rintro elements rfl
      cases hlistable
    · rintro _ ⟨⟩
    · rintro _ _ _ ⟨⟩
    · rintro _ _ _ ⟨⟩

theorem holds_tupleSchema {length : Nat} (h : tupleLength? value = some length) :
    (tupleSchema length).holds reading value = true := by
  obtain ⟨elements, rfl, hlength, hcount, hnumbers⟩ := tupleLength_some h
  have hunits : (Number.ofInt length).units = (elements.length : Int) * Binary64.one := by
    rw [hlength]
    exact Number.units_ofInt (by omega)
  refine holds_object.mpr ⟨admits_facets.mpr ⟨rfl, rfl, ?_, ?_⟩, admits_parts.mpr ⟨?_, ?_, ?_⟩⟩
  · rintro _ ⟨⟩
  · rintro _ ⟨⟩
    rw [Option.all_some, Option.all_some, decide_eq_true_eq, decide_eq_true_eq]
    exact ⟨Int.le_of_eq hunits, Int.le_of_eq hunits.symm⟩
  · rintro _ ⟨⟩
  · rintro _ ⟨⟩
  · rintro _ schema ⟨⟩ ⟨⟩ element helement
    have hnumber := hnumbers element helement
    cases element with
    | number _ => rfl
    | _ => cases hnumber

theorem holds_timestampSchema (h : TypeName.integer.hasValue value = true) :
    timestampSchema.holds reading value = true :=
  holds_simple.mpr h

/-- No refinement turns an observed value away, if listed values are compared as they are listed. -/
theorem holds_of_refined (hrefined : Refined property samples schema refined)
    (hobserved : value ∈ observed property samples) (h : schema.holds .lax value = true) :
    refined.holds .lax value = true := by
  cases hrefined with
  | kept => exact h
  | @listed type values limit htype hvalues =>
    obtain ⟨histype, hlistable⟩ := listedType_some htype
    have hvalue := hasValue_of_holds histype h
    refine (holds_listedSchema hlistable).mpr ⟨hvalue, ?_⟩
    have hlisted := isListable_of_hasValue hlistable hvalue
    have hmem : value ∈ listable property samples := List.mem_filter.mpr ⟨hobserved, hlisted⟩
    -- the value itself is listed, or one that the list takes for the same
    obtain ⟨listed, hin, heq⟩ := (distinct_some hvalues).1 value hmem
    refine ⟨listed, hin, ?_⟩
    rcases heq with rfl | heq
    · exact sameValue_refl_of_isListable hlisted
    · exact heq
  | tuple hlength => exact holds_tupleSchema (commonLength_some hlength value hobserved)
  | recent hrecent =>
    exact holds_timestampSchema (hasValue_of_isRecent (hrecent value hobserved))

end Refinement

namespace Inferrer

open Refinement

/-- The schema of a property after all refinements. -/
def refine (inferrer : Inferrer) (samples : List Json) (property : String) (schema : Schema) :
    Schema :=
  inferrer.refinements.foldl (fun schema refinement =>
    (refinement.refine? property schema samples).getD schema) schema

theorem foldl_apply (inferrer : Inferrer) (samples : List Json) (properties : Members Schema) :
    inferrer.refinements.foldl (fun properties refinement => refinement.apply properties samples)
        properties
      = properties.map fun entry => (entry.1, inferrer.refine samples entry.1 entry.2) := by
  unfold refine
  induction inferrer.refinements generalizing properties with
  | nil => simp
  | cons refinement rest ih =>
    rw [List.foldl_cons, ih, Refinement.apply, List.map_map]
    rfl

/-- Settings are accepted if their patterns are. -/
theorem exists_ofConfig {config : InferenceConfig} (clockMs : Int)
    (hplaces : (Regex.compile config.coordinatePattern).toBool = true)
    (htimes : (Regex.compile config.timestampPattern).toBool = true) :
    ∃ inferrer, ofConfig config clockMs = .ok inferrer := by
  unfold ofConfig
  cases hcoordinate : Regex.compile config.coordinatePattern with
  | error fault =>
    rw [hcoordinate] at hplaces
    cases hplaces
  | ok places =>
    cases htimestamp : Regex.compile config.timestampPattern with
    | error fault =>
      rw [htimestamp] at htimes
      cases htimes
    | ok times =>
      simp only [hcoordinate, htimestamp]
      exact ⟨_, rfl⟩

/-- The refinements that settings ask for. -/
theorem exists_patterns_ofConfig {config : InferenceConfig} {clockMs : Int} {inferrer : Inferrer}
    (h : ofConfig config clockMs = .ok inferrer) :
    ∃ places times, inferrer.refinements =
      [.listing config.enumMinItems config.enumMaxValues config.enumMaxRatio,
       .coordinates places,
       .timestamps times
        (floorMs (config.referenceTimeMs.getD clockMs) config.timestampFloorYears)] := by
  unfold ofConfig at h
  dsimp only at h
  cases hplaces : (Regex.compile config.coordinatePattern).mapError fun fault =>
      ConfigError.mk "coordinate" config.coordinatePattern fault with
  | error error =>
    rw [hplaces] at h
    cases h
  | ok places =>
    cases htimes : (Regex.compile config.timestampPattern).mapError fun fault =>
        ConfigError.mk "timestamp" config.timestampPattern fault with
    | error error =>
      rw [hplaces, htimes] at h
      cases h
    | ok times =>
      rw [hplaces, htimes] at h
      cases h
      exact ⟨places, times, rfl⟩

theorem refinements_ofConfig {config : InferenceConfig} {clockMs : Int} {inferrer : Inferrer}
    (h : ofConfig config clockMs = .ok inferrer) :
    ∃ places times floor, inferrer.refinements =
      [.listing config.enumMinItems config.enumMaxValues config.enumMaxRatio,
       .coordinates places, .timestamps times floor] := by
  obtain ⟨places, times, hrefinements⟩ := exists_patterns_ofConfig h
  exact ⟨places, times, _, hrefinements⟩

/-- Whatever the settings are, a property is kept, listed, fixed in length or marked as recent. -/
theorem refined_refine {config : InferenceConfig} {clockMs : Int} {inferrer : Inferrer}
    (h : ofConfig config clockMs = .ok inferrer) (samples : List Json) (property : String)
    (schema : Schema) :
    Refined property samples schema (inferrer.refine samples property schema) := by
  obtain ⟨places, times, floor, hrefinements⟩ := refinements_ofConfig h
  unfold refine
  rw [hrefinements]
  simp only [List.foldl_cons, List.foldl_nil]
  -- a later refinement ignores what an earlier one gave, or leaves it as it is
  generalize hlisting : (listing config.enumMinItems config.enumMaxValues
    config.enumMaxRatio).refine? property schema samples = listed
  have hfirst : Refined property samples schema (listed.getD schema) := by
    cases listed with
    | none => exact .kept
    | some refined =>
      obtain ⟨type, values, htype, hvalues, rfl⟩ := listing_some hlisting
      exact .listed htype hvalues
  generalize listed.getD schema = first at hfirst
  generalize hcoordinates : (coordinates places).refine? property first samples = fixed
  have hsecond : Refined property samples schema (fixed.getD first) := by
    cases fixed with
    | none => exact hfirst
    | some refined =>
      obtain ⟨length, hlength, rfl⟩ := coordinates_some hcoordinates
      exact .tuple hlength
  generalize fixed.getD first = second at hsecond
  generalize htimestamps : (timestamps times floor).refine? property second samples = marked
  cases marked with
  | none => exact hsecond
  | some refined =>
    obtain ⟨hrecent, rfl⟩ := timestamps_some htimestamps
    exact .recent hrecent

end Inferrer

end JsonShape
