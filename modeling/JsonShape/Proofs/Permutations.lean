import JsonShape.Proofs.NormalForm
import JsonShape.Proofs.ObjectArrays

/-!
# Properties of objects in another order

When the objects of an array come in another order, so do the values of each property. What is
collected of their schemas is the same up to order. Only two things look at the order: numbers are
widened only before anything else was seen, and of different values that count as one listed number
the first is listed.

* **Otherwise alike** (`Inferrer.alike_refinedSchema`) — the schemas of a property in all orders are
  equal up to the order of alternatives, unless one of the two things comes up.
* **Mixed numbers** (`Inferrer.exists_not_alike_of_mixed`) — a property with integers, other numbers
  and something else has different schemas in two orders.
* **Spellings** (`Inferrer.exists_not_alike_of_spellings`) — so does one that lists a number with
  two spellings.
-/

namespace JsonShape

open Members

namespace Schema

variable {schemas others : List Schema}

/-! ### Different schemas in another order -/

/-- What is collected is the same, up to order and equality. -/
theorem exists_perm_dedup (tidy : ∀ schema ∈ schemas, schema.Tidy) (perm : schemas.Perm others) :
    ∃ between, between.Perm (dedup others)
      ∧ List.Forall₂ (fun a b => a.same b = true) (dedup schemas) between := by
  have tidy' : ∀ schema ∈ others, schema.Tidy := fun schema h => tidy schema (perm.mem_iff.mpr h)
  -- both lists are without repetition, and each one has an equal for every schema of the other
  refine exists_perm_of_cover ?_ same_trans ?_ ?_ ?_ ?_
  · exact fun a ha b => (tidy a (mem_of_mem_dedup ha)).same_symm
  · exact (distinct_dedup schemas).imp fun hdiffer => Bool.eq_false_iff.mp hdiffer
  · exact (distinct_dedup others).imp fun hdiffer => Bool.eq_false_iff.mp hdiffer
  · intro a ha
    have hmem := perm.mem_iff.mp (mem_of_mem_dedup ha)
    obtain ⟨b, hb, rfl | hsame⟩ := exists_mem_dedup hmem
    · exact ⟨b, hb, (tidy' b hmem).same_self⟩
    · exact ⟨b, hb, (tidy' b (mem_of_mem_dedup hb)).same_symm hsame⟩
  · intro b hb
    have hmem := perm.mem_iff.mpr (mem_of_mem_dedup hb)
    obtain ⟨a, ha, rfl | hsame⟩ := exists_mem_dedup hmem
    · exact ⟨a, ha, (tidy a hmem).same_self⟩
    · exact ⟨a, ha, hsame⟩

/-- Two schemas are equal, or choices whose alternatives are equal up to order. -/
def SameOrChoices (schema other : Schema) : Prop :=
  schema.same other = true ∨ ∃ alternatives alternatives', schema = oneOf alternatives
    ∧ other = oneOf alternatives' ∧ schema.alike other = true

theorem SameOrChoices.alike {schema other : Schema} (h : schema.SameOrChoices other) :
    schema.alike other = true := by
  rcases h with h | ⟨_, _, _, _, h⟩
  · exact equal_of_same h
  · exact h

theorem sameOrChoices_dedup (tidy : ∀ schema ∈ schemas, schema.Tidy)
    (perm : schemas.Perm others) :
    (choice (dedup schemas)).SameOrChoices (choice (dedup others)) := by
  obtain ⟨between, hperm, pairs⟩ := exists_perm_dedup tidy perm
  have hlength : (dedup schemas).length = (dedup others).length :=
    pairs.length_eq.trans hperm.length_eq
  -- both lists have one length, so both are one schema or both are real choices
  obtain ⟨schema, heq, hchoice⟩ | ⟨hmany, hchoice⟩ := choice_cases (dedup schemas)
  · obtain ⟨other, heq', hchoice'⟩ | ⟨hmany', -⟩ := choice_cases (dedup others)
    · rw [heq', List.perm_singleton] at hperm
      rw [heq, hperm] at pairs
      rw [hchoice, hchoice']
      exact .inl (List.forall₂_cons.mp pairs).1
    · exact absurd (by rw [← hlength, heq, List.length_singleton]) hmany'
  · obtain ⟨other, heq', -⟩ | ⟨-, hchoice'⟩ := choice_cases (dedup others)
    · exact absurd (by rw [hlength, heq', List.length_singleton]) hmany
    · rw [hchoice, hchoice']
      refine .inr ⟨_, _, rfl, rfl, ?_⟩
      rw [alike, equal_oneOf]
      refine relateShuffled_iff.mpr ⟨between, hperm, ?_⟩
      exact pairs.imp fun _ _ => equal_of_same

/-! ### Widened schemas in another order -/

/-- Integers, other numbers and something else meet. -/
def Mixed (schemas : List Schema) : Prop :=
  (∃ schema ∈ schemas, schema.isType .integer = true)
    ∧ (∃ schema ∈ schemas, schema.isType .number = true)
    ∧ ∃ schema ∈ schemas, schema.isNumeric = false

theorem Mixed.perm (mixed : Mixed schemas) (perm : schemas.Perm others) : Mixed others := by
  obtain ⟨⟨integer, hinteger, htype⟩, ⟨number, hnumber, htype'⟩, other, hother, hnot⟩ := mixed
  exact ⟨⟨integer, perm.mem_iff.mp hinteger, htype⟩, ⟨number, perm.mem_iff.mp hnumber, htype'⟩,
    other, perm.mem_iff.mp hother, hnot⟩

/-- Unless integers, other numbers and something else meet, the order does not matter. -/
theorem sameOrChoices_widened (nonempty : schemas ≠ []) (bare : ∀ schema ∈ schemas, schema.Bare)
    (tidy : ∀ schema ∈ schemas, schema.Tidy) (perm : schemas.Perm others)
    (unmixed : ¬ Mixed schemas) :
    (choice (dedup (widened schemas))).SameOrChoices (choice (dedup (widened others))) := by
  have hany : ∀ type, (schemas.any fun schema => schema.isType type)
      = others.any fun schema => schema.isType type := fun type => perm.any_eq
  -- if the two types of numbers meet, there is nothing else, and all become numbers in any order
  by_cases hmeet : (schemas.any (·.isType .integer) && schemas.any (·.isType .number)) = true
  · have hnumbers : ∀ schema ∈ schemas, schema.isNumeric = true := by
      rw [Bool.and_eq_true, List.any_eq_true, List.any_eq_true] at hmeet
      intro schema hschema
      by_contra hnot
      exact unmixed ⟨hmeet.1, hmeet.2, schema, hschema, Bool.eq_false_iff.mpr hnot⟩
    have hothers : ∀ schema ∈ others, schema.isNumeric = true := fun schema h =>
      hnumbers schema (perm.mem_iff.mpr h)
    have bare' : ∀ schema ∈ others, schema.Bare := fun schema h => bare schema (perm.mem_iff.mpr h)
    rw [choice_numbers nonempty bare hnumbers, choice_numbers
      (fun h => nonempty (h ▸ perm).eq_nil) bare' hothers, numericType, numericType, hany]
    exact .inl (emitted_simple _ none none).tidy.same_self
  · rw [widened_eq_self hmeet, widened_eq_self (by rwa [← hany, ← hany])]
    exact sameOrChoices_dedup tidy perm

/-! ### Mixed schemas -/

theorem any_isType_dedup (schemas : List Schema) (type : TypeName) :
    ((dedup schemas).any fun schema => schema.isType type)
      = schemas.any fun schema => schema.isType type := by
  rw [Bool.eq_iff_iff, List.any_eq_true, List.any_eq_true]
  constructor
  · rintro ⟨schema, hschema, htype⟩
    exact ⟨schema, mem_of_mem_dedup hschema, htype⟩
  · rintro ⟨schema, hschema, htype⟩
    obtain ⟨found, hfound, rfl | hsame⟩ := exists_mem_dedup hschema
    · exact ⟨found, hfound, htype⟩
    · exact ⟨found, hfound, (isType_eq_of_same hsame type).trans htype⟩

/-- A number and something else are a real choice. -/
theorem choice_dedup_eq_oneOf (hnumber : ∃ schema ∈ schemas, schema.isNumeric = true)
    (hother : ∃ schema ∈ schemas, schema.isNumeric = false) :
    choice (dedup schemas) = oneOf (dedup schemas) := by
  obtain ⟨schema, heq, -⟩ | ⟨-, hchoice⟩ := choice_cases (dedup schemas)
  · have hall : ∀ part ∈ schemas, part.isNumeric = schema.isNumeric := by
      intro part hpart
      obtain ⟨found, hfound, hsame⟩ := exists_mem_dedup hpart
      rw [heq, List.mem_singleton] at hfound
      subst hfound
      rcases hsame with rfl | hsame
      · rfl
      · exact (isNumeric_eq_of_same hsame).symm
    obtain ⟨number, hmem, hnumeric⟩ := hnumber
    obtain ⟨other, hmem', hnot⟩ := hother
    rw [hall number hmem, ← hall other hmem', hnot] at hnumeric
    cases hnumeric
  · exact hchoice

/-- Mixed schemas are a real choice, in whatever order they come. -/
theorem Mixed.choice_eq (mixed : Mixed schemas) :
    choice (dedup (widened schemas)) = oneOf (dedup (widened schemas)) := by
  obtain ⟨⟨integer, hinteger, htype⟩, -, other, hother, hnot⟩ := mixed
  -- only the front is widened: the integer stays a number there, and the other schema is behind it
  have hsplit := List.takeWhile_append_dropWhile (p := isNumeric) (l := schemas)
  refine choice_dedup_eq_oneOf ?_ ⟨other, ?_, hnot⟩
  · have hnumeric : integer.isNumeric = true := by rw [isNumeric, htype, Bool.true_or]
    rw [← hsplit, List.mem_append] at hinteger
    rcases hinteger with hfront | hback
    · unfold widened widenedNumbers
      split
      · exact ⟨typed .number, List.mem_cons_self, rfl⟩
      · exact ⟨integer, List.mem_append_left _ hfront, hnumeric⟩
    · exact ⟨integer, List.mem_append_right _ hback, hnumeric⟩
  · rw [← hsplit, List.mem_append] at hother
    refine List.mem_append_right _ (hother.resolve_left fun hmem => ?_)
    rw [List.mem_takeWhile_imp hmem] at hnot
    cases hnot

/-- After something else, nothing is widened. -/
theorem widened_cons_of_not_isNumeric {first : Schema} (h : first.isNumeric = false) :
    widened (first :: schemas) = first :: schemas := by
  have hnot : ¬ first.isNumeric = true := Bool.eq_false_iff.mp h
  rw [widened, List.takeWhile_cons_of_neg hnot, List.dropWhile_cons_of_neg hnot]
  rfl

/-- Before everything else, integers and other numbers become numbers. -/
theorem widened_append_of_numbers (hnumbers : ∀ schema ∈ schemas, schema.isNumeric = true)
    (hothers : ∀ schema ∈ others, schema.isNumeric = false)
    (hinteger : ∃ schema ∈ schemas, schema.isType .integer = true)
    (hnumber : ∃ schema ∈ schemas, schema.isType .number = true) :
    widened (schemas ++ others) = typed .number :: others := by
  have hback : others.takeWhile isNumeric = [] ∧ others.dropWhile isNumeric = others := by
    cases others with
    | nil => exact ⟨rfl, rfl⟩
    | cons other rest =>
      have hnot : ¬ other.isNumeric = true :=
        Bool.eq_false_iff.mp (hothers other List.mem_cons_self)
      exact ⟨List.takeWhile_cons_of_neg hnot, List.dropWhile_cons_of_neg hnot⟩
  have hmeet : (schemas.any (·.isType .integer) && schemas.any (·.isType .number)) = true := by
    rw [Bool.and_eq_true, List.any_eq_true, List.any_eq_true]
    exact ⟨hinteger, hnumber⟩
  rw [widened, List.takeWhile_append_of_pos hnumbers, List.dropWhile_append_of_pos hnumbers,
    hback.1, hback.2, List.append_nil, widenedNumbers, if_pos hmeet]
  rfl

end Schema

namespace Inferrer

open Schema Refinement

variable {config : InferenceConfig} {clockMs : Int} {inferrer : Inferrer}
  {objects objects' : List (Members Json)} {name : String}

/-! ### Choices are not refined -/

/-- A choice is left as it is. -/
theorem refine_oneOf (hconfig : ofConfig config clockMs = .ok inferrer) (samples : List Json)
    (property : String) (alternatives : List Schema) :
    inferrer.refine samples property (oneOf alternatives) = oneOf alternatives := by
  obtain ⟨places, times, floor, hrefinements⟩ := refinements_ofConfig hconfig
  -- the refinements one by one: each asks for a single type, and a choice has none
  have hlisting : (listing config.enumMinItems config.enumMaxValues config.enumMaxRatio).step
      property samples (oneOf alternatives) = oneOf alternatives :=
    step_listing.trans (ite_self _)
  have hcoordinates : (coordinates places).step property samples (oneOf alternatives)
      = oneOf alternatives := by
    have hitems : hasNumericItems (oneOf alternatives) = false := rfl
    rw [step, coordinates]
    dsimp only
    rw [hitems, Bool.and_false]
    rfl
  have htimestamps : (timestamps times floor).step property samples (oneOf alternatives)
      = oneOf alternatives := by
    have htype : (oneOf alternatives).isType .integer = false := rfl
    rw [step, timestamps]
    dsimp only
    rw [htype, Bool.and_false, Bool.false_and]
    rfl
  show inferrer.refinements.foldl (fun schema refinement => refinement.step property samples schema)
    (oneOf alternatives) = _
  rw [hrefinements, List.foldl_cons, List.foldl_cons, List.foldl_cons, List.foldl_nil, hlisting,
    hcoordinates, htimestamps]

/-! ### Objects in another order -/

theorem perm_observed (perm : objects'.Perm objects) (name : String) :
    (observed name (objects'.map .object)).Perm (observed name (objects.map .object)) :=
  (perm.map _).filterMap _

/-- Every observed value can be the first one. -/
theorem exists_front {value : Json} (h : value ∈ observed name (objects.map .object)) :
    ∃ (objects' : List (Members Json)) (values : List Json), objects'.Perm objects
      ∧ observed name (objects'.map .object) = value :: values := by
  obtain ⟨sample, hsample, hvalue⟩ := mem_observed.mp h
  obtain ⟨members, hmembers, rfl⟩ := List.mem_map.mp hsample
  obtain ⟨before, after, rfl⟩ := List.append_of_mem hmembers
  exact ⟨members :: (before ++ after), _, List.perm_middle.symm, List.filterMap_cons_some hvalue⟩

/-- The observed values can be sorted into those with a property and those without. -/
theorem exists_sorted (objects : List (Members Json)) (name : String) (p : Json → Bool) :
    ∃ (objects' : List (Members Json)) (front back : List Json), objects'.Perm objects
      ∧ observed name (objects'.map .object) = front ++ back
      ∧ (∀ value ∈ front, p value = true) ∧ ∀ value ∈ back, p value = false := by
  let q : Members Json → Bool := fun members => (members.lookup name).any p
  have hobserved : ∀ {list : List (Members Json)} {value : Json},
      value ∈ observed name (list.map .object) → ∃ members ∈ list, q members = p value := by
    intro list value hvalue
    obtain ⟨sample, hsample, hlookup⟩ := mem_observed.mp hvalue
    obtain ⟨members, hmembers, rfl⟩ := List.mem_map.mp hsample
    exact ⟨members, hmembers, congrArg (Option.any p) hlookup⟩
  -- objects without the property are observed in neither half, so it does not matter where they go
  refine ⟨objects.filter q ++ objects.filter (fun members => !q members),
    observed name ((objects.filter q).map .object),
    observed name ((objects.filter fun members => !q members).map .object),
    List.filter_append_perm q objects, ?_, ?_, ?_⟩
  · rw [List.map_append, observed, List.filterMap_append]
    rfl
  · intro value hvalue
    obtain ⟨members, hmembers, heq⟩ := hobserved hvalue
    rw [← heq]
    exact (List.mem_filter.mp hmembers).2
  · intro value hvalue
    obtain ⟨members, hmembers, heq⟩ := hobserved hvalue
    rw [← heq]
    exact Bool.not_eq_true' .. |>.mp (List.mem_filter.mp hmembers).2

theorem sameCounts_of_perm (perm : objects'.Perm objects) : SameCounts objects objects' :=
  ⟨perm.length_eq.symm, fun name => (perm_observed perm name).length_eq.symm⟩

/-! ### A property whose schema does not depend on the order -/

variable (inferrer) in
/-- Integers, other numbers and something else are observed of a property. -/
def MixedProperty (objects : List (Members Json)) (name : String) : Prop :=
  Mixed ((observed name (objects.map .object)).map inferrer.infer)

theorem sameOrChoices_propertySchema (hconfig : ofConfig config clockMs = .ok inferrer)
    (unique : ∀ members ∈ objects, (Json.object members).UniqueNames)
    (perm : objects'.Perm objects) (nonempty : observed name (objects.map .object) ≠ [])
    (unmixed : ¬ inferrer.MixedProperty objects name) :
    (inferrer.propertySchema (observed name (objects.map .object))).SameOrChoices
      (inferrer.propertySchema (observed name (objects'.map .object))) := by
  refine sameOrChoices_widened (by simpa using nonempty) ?_ ?_
    ((perm_observed perm name).symm.map _) unmixed
  · exact List.forall_mem_map.mpr fun value _ => bare_infer value
  · exact List.forall_mem_map.mpr fun value hvalue =>
      (emitted_infer hconfig (uniqueNames_of_mem_observed unique hvalue)).tidy

/-- The schemas of a property in two orders are alike, unless it is mixed or of different values
that count as one number one is listed. -/
theorem alike_refinedSchema (hconfig : ofConfig config clockMs = .ok inferrer)
    (unique : ∀ members ∈ objects, (Json.object members).UniqueNames)
    (perm : objects'.Perm objects) (nonempty : observed name (objects.map .object) ≠ [])
    (unmixed : ¬ inferrer.MixedProperty objects name)
    (hspelling : ∀ type values, inferrer.refinedSchema objects name = listedSchema type values →
      ∀ a ∈ observed name (objects.map .object), ∀ b ∈ observed name (objects.map .object),
        sameValue a b = true → a.same b = true) :
    (inferrer.refinedSchema objects name).alike (inferrer.refinedSchema objects' name) = true := by
  have hperm := perm_observed perm name
  have uniqueValues : ∀ value ∈ observed name (objects.map .object), value.UniqueNames :=
    fun value => uniqueNames_of_mem_observed unique
  -- a choice is not refined; one schema is refined alike in both orders, or its values are listed
  rcases sameOrChoices_propertySchema hconfig unique perm nonempty unmixed with
    hsame | ⟨alternatives, alternatives', heq, heq', halike⟩
  · have hrearranged := Rearranged.of_perm hperm.symm fun value hvalue =>
      uniqueValues value (hperm.mem_iff.mp hvalue)
    rcases same_refine_or_listed hconfig (emitted_propertySchema hconfig nonempty uniqueValues)
      ⟨by simpa using perm.length_eq.symm, hrearranged⟩ hsame with h | ⟨type, heq, heq'⟩
    · exact equal_of_same h
    · rw [refinedSchema, refinedSchema, heq, heq']
      refine equal_of_same (same_listed hrearranged fun a ha b hb hkey => ?_)
      obtain ⟨hmem, hlistable⟩ := List.mem_filter.mp (mem_of_mem_firstsBy ha)
      obtain ⟨hmem', hlistable'⟩ := List.mem_filter.mp (mem_of_mem_firstsBy hb)
      exact hspelling type _ heq a hmem b (hperm.mem_iff.mp hmem')
        ((sameValue_iff_key hlistable hlistable').mpr hkey)
  · rw [refinedSchema, refinedSchema, heq, heq', refine_oneOf hconfig, refine_oneOf hconfig]
    rwa [heq, heq'] at halike

/-! ### A property with integers, other numbers and something else -/

theorem refinedSchema_of_mixed (hconfig : ofConfig config clockMs = .ok inferrer)
    (mixed : inferrer.MixedProperty objects name) : inferrer.refinedSchema objects name
      = oneOf (dedup (widened ((observed name (objects.map .object)).map inferrer.infer))) := by
  rw [refinedSchema, propertySchema, mixed.choice_eq, refine_oneOf hconfig]

variable (inferrer) in
/-- Integers are among the schemas of a property, after numbers are widened. -/
def OffersInteger (objects : List (Members Json)) (name : String) : Prop :=
  ∃ schema ∈ widened ((observed name (objects.map .object)).map inferrer.infer),
    schema.isType .integer = true

theorem offersInteger_iff_of_alike (hconfig : ofConfig config clockMs = .ok inferrer)
    (mixed : inferrer.MixedProperty objects name) (mixed' : inferrer.MixedProperty objects' name)
    (halike : (inferrer.refinedSchema objects name).alike (inferrer.refinedSchema objects' name)
      = true) :
    inferrer.OffersInteger objects name ↔ inferrer.OffersInteger objects' name := by
  rw [refinedSchema_of_mixed hconfig mixed, refinedSchema_of_mixed hconfig mixed'] at halike
  -- whether there is an integer among the alternatives does not depend on their order
  have hany : ((dedup _).any fun schema => schema.isType .integer)
      = (dedup _).any fun schema => schema.isType .integer :=
    any_alternatives_eq_of_alike halike .integer
  rw [any_isType_dedup, any_isType_dedup, Bool.eq_iff_iff, List.any_eq_true, List.any_eq_true]
    at hany
  exact hany

/-- After something else, integers stay. -/
theorem exists_offersInteger (mixed : inferrer.MixedProperty objects name) :
    ∃ objects' : List (Members Json), objects'.Perm objects
      ∧ inferrer.OffersInteger objects' name := by
  obtain ⟨⟨integer, hinteger, htype⟩, -, other, hother, hnot⟩ := mixed
  obtain ⟨value, hvalue, rfl⟩ := List.mem_map.mp hother
  -- with something else at the beginning the front of numbers is empty
  obtain ⟨objects', values, perm, hobserved⟩ := exists_front hvalue
  refine ⟨objects', perm, integer, ?_, htype⟩
  have hmem := ((perm_observed perm name).map inferrer.infer).mem_iff.mpr hinteger
  rw [hobserved, List.map_cons] at hmem ⊢
  rwa [widened_cons_of_not_isNumeric hnot]

/-- Before everything else, integers become numbers. -/
theorem exists_not_offersInteger (mixed : inferrer.MixedProperty objects name) :
    ∃ objects' : List (Members Json), objects'.Perm objects
      ∧ ¬ inferrer.OffersInteger objects' name := by
  obtain ⟨objects', front, back, perm, hobserved, hfront, hback⟩ :=
    -- all numbers are brought to the front, where they are widened
    exists_sorted objects name fun value => (inferrer.infer value).isNumeric
  have hmem : ∀ schema ∈ (observed name (objects.map .object)).map inferrer.infer,
      schema.isNumeric = true → schema ∈ front.map inferrer.infer := by
    intro schema hschema hnumeric
    have hmem := ((perm_observed perm name).map inferrer.infer).mem_iff.mpr hschema
    rw [hobserved, List.map_append, List.mem_append] at hmem
    refine hmem.resolve_right fun hlast => ?_
    obtain ⟨value, hvalue, rfl⟩ := List.mem_map.mp hlast
    rw [hback value hvalue] at hnumeric
    cases hnumeric
  obtain ⟨⟨integer, hinteger, htype⟩, ⟨number, hnumber, htype'⟩, -⟩ := mixed
  refine ⟨objects', perm, ?_⟩
  rintro ⟨schema, hschema, hisInteger⟩
  rw [hobserved, List.map_append, widened_append_of_numbers (List.forall_mem_map.mpr hfront)
    (List.forall_mem_map.mpr hback)
    ⟨integer, hmem integer hinteger (by rw [isNumeric, htype, Bool.true_or]), htype⟩
    ⟨number, hmem number hnumber (by rw [isNumeric, htype', Bool.or_true]), htype'⟩,
    List.mem_cons] at hschema
  rcases hschema with rfl | hschema
  · cases hisInteger
  · obtain ⟨value, hvalue, rfl⟩ := List.mem_map.mp hschema
    have hnot := hback value hvalue
    rw [isNumeric, hisInteger] at hnot
    cases hnot

/-- Whether integers are among the alternatives of a mixed property depends on the order. -/
theorem exists_not_alike_of_mixed (hconfig : ofConfig config clockMs = .ok inferrer)
    (mixed : inferrer.MixedProperty objects name) :
    ∃ objects' : List (Members Json), objects'.Perm objects
      ∧ ¬ (inferrer.refinedSchema objects name).alike (inferrer.refinedSchema objects' name)
        = true := by
  have hmixed : ∀ {other : List (Members Json)}, other.Perm objects →
      inferrer.MixedProperty other name := fun perm =>
    mixed.perm ((perm_observed perm name).symm.map _)
  obtain ⟨objects', perm, hoffers⟩ := exists_offersInteger mixed
  obtain ⟨objects'', perm', hnot⟩ := exists_not_offersInteger mixed
  -- there is an order with an integer and one without, and the own order differs from one of them
  by_cases hown : inferrer.OffersInteger objects name
  · refine ⟨objects'', perm', fun halike => hnot ?_⟩
    exact (offersInteger_iff_of_alike hconfig mixed (hmixed perm') halike).mp hown
  · refine ⟨objects', perm, fun halike => hown ?_⟩
    exact (offersInteger_iff_of_alike hconfig mixed (hmixed perm) halike).mpr hoffers

/-! ### A property with different values that count as one listed number -/

theorem choices_propertySchema (values : List Json) :
    (inferrer.propertySchema values).facets?.bind Facets.choices = none := by
  unfold propertySchema
  obtain ⟨schema, heq, hchoice⟩ | ⟨-, hchoice⟩ :=
    choice_cases (dedup (widened (values.map inferrer.infer)))
  · rw [hchoice]
    rcases mem_dedup_widened (heq ▸ List.mem_singleton_self schema) with rfl | ⟨value, -, rfl⟩
    · rfl
    · cases value with
      | array elements =>
        rw [infer]
        cases inferAll inferrer elements <;> rfl
      | _ => rfl
  · rw [hchoice]
    rfl

/-- Values are listed in one outcome only. -/
theorem eq_listed_of_result {outcome : Outcome} {values listed : List Json} {schema : Schema}
    {type : TypeName} (hschema : schema.facets?.bind Facets.choices = none)
    (h : outcome.result values schema = listedSchema type listed) :
    ∃ type, outcome = .listed type := by
  have hchoices := congrArg (fun schema => schema.facets?.bind Facets.choices) h
  cases outcome with
  | kept => cases hschema.symm.trans hchoices
  | listed type => exact ⟨type, rfl⟩
  | tuple length => cases hchoices
  | recent => cases hchoices

theorem isNumber_of_sameValue {a b : Json} (hsame : sameValue a b = true)
    (hdiffer : a.same b = false) : a.isNumber = true ∧ b.isNumber = true := by
  have hother : a.same b = true → a.isNumber = true ∧ b.isNumber = true := fun h => by
    rw [hdiffer] at h
    cases h
  cases a with
  | number x =>
    cases b with
    | number y => exact ⟨rfl, rfl⟩
    | _ => exact hother hsame
  | _ => exact hother hsame

theorem exists_same_of_alike {type type' : TypeName} {values others : List Json}
    (h : (listedSchema type values).alike (listedSchema type' others) = true) {value : Json}
    (hvalue : value ∈ others) : ∃ found ∈ values, found.same value = true := by
  rw [alike, listedSchema, listedSchema, equal_object, Bool.and_eq_true] at h
  have hsorted : Json.sameElements (values.mergeSort valueLe) (others.mergeSort valueLe) = true :=
    Facets.same_choices h.1
  obtain ⟨found, hfound, hsame⟩ := exists_of_mem_forall₂_right
    (Json.sameElementsUpTo_iff.mp hsorted) (List.mem_mergeSort.mpr hvalue)
  exact ⟨found, List.mem_mergeSort.mp hfound, hsame⟩

/-- If the order does not matter, every observed value that can be listed is, as it comes first in
some order. -/
theorem exists_listed (hconfig : ofConfig config clockMs = .ok inferrer)
    (unique : ∀ members ∈ objects, (Json.object members).UniqueNames)
    (unmixed : ¬ inferrer.MixedProperty objects name) {type : TypeName} {values : List Json}
    (hlisted : inferrer.refinedSchema objects name = listedSchema type values)
    (halike : ∀ objects' : List (Members Json), objects'.Perm objects →
      (inferrer.refinedSchema objects name).alike (inferrer.refinedSchema objects' name) = true)
    {value : Json} (hvalue : value ∈ listable name (objects.map .object)) :
    ∃ found ∈ firstsBy sameValue (listable name (objects.map .object)),
      found.same value = true := by
  obtain ⟨hobserved, hlistable⟩ := List.mem_filter.mp hvalue
  obtain ⟨objects', rest, perm, hfront⟩ := exists_front hobserved
  have hperm := perm_observed perm name
  -- a choice would not have been refined
  have hsame : (inferrer.propertySchema (observed name (objects.map .object))).same
      (inferrer.propertySchema (observed name (objects'.map .object))) = true := by
    refine (sameOrChoices_propertySchema hconfig unique perm (List.ne_nil_of_mem hobserved)
      unmixed).resolve_right ?_
    rintro ⟨alternatives, -, heq, -, -⟩
    rw [refinedSchema, heq, refine_oneOf hconfig] at hlisted
    cases hlisted
  have hrearranged := Rearranged.of_perm hperm.symm fun value hvalue =>
    uniqueNames_of_mem_observed unique (hperm.mem_iff.mp hvalue)
  obtain ⟨outcome, heq, heq'⟩ := exists_outcome hconfig
    ⟨by simpa using perm.length_eq.symm, hrearranged⟩ hsame
  obtain ⟨type', rfl⟩ := eq_listed_of_result (choices_propertySchema _) (heq.symm.trans hlisted)
  have hchoices := halike objects' perm
  rw [refinedSchema, refinedSchema, heq, heq'] at hchoices
  refine exists_same_of_alike hchoices ?_
  rw [hfront, List.filter_cons, if_pos hlistable]
  exact mem_firstsBy_head value _

/-- Of two different values that are listed as one, the first is listed, so the order matters. -/
theorem exists_not_alike_of_spellings (hconfig : ofConfig config clockMs = .ok inferrer)
    (unique : ∀ members ∈ objects, (Json.object members).UniqueNames) {type : TypeName}
    {values : List Json} (hlisted : inferrer.refinedSchema objects name = listedSchema type values)
    {a b : Json} (ha : a ∈ observed name (objects.map .object))
    (hb : b ∈ observed name (objects.map .object)) (hsame : sameValue a b = true)
    (hdiffer : a.same b = false) :
    ∃ objects' : List (Members Json), objects'.Perm objects
      ∧ ¬ (inferrer.refinedSchema objects name).alike (inferrer.refinedSchema objects' name)
        = true := by
  -- a mixed property depends on the order anyway
  by_cases mixed : inferrer.MixedProperty objects name
  · exact exists_not_alike_of_mixed hconfig mixed
  -- otherwise each of the two would have an equal among the listed values, which is the same one
  -- for both
  by_contra hnone
  have halike : ∀ objects' : List (Members Json), objects'.Perm objects →
      (inferrer.refinedSchema objects name).alike (inferrer.refinedSchema objects' name) = true :=
    fun objects' perm => by_contra fun hnot => hnone ⟨objects', perm, hnot⟩
  obtain ⟨hnumber, hnumber'⟩ := isNumber_of_sameValue hsame hdiffer
  have hlistable : (a.isString || a.isNumber) = true := by rw [hnumber, Bool.or_true]
  have hlistable' : (b.isString || b.isNumber) = true := by rw [hnumber', Bool.or_true]
  obtain ⟨found, hfound, hsameA⟩ := exists_listed hconfig unique mixed hlisted halike
    (List.mem_filter.mpr ⟨ha, hlistable⟩)
  obtain ⟨found', hfound', hsameB⟩ := exists_listed hconfig unique mixed hlisted halike
    (List.mem_filter.mpr ⟨hb, hlistable'⟩)
  -- both have one key, so they are one listed value
  have hkey : key found = key found' :=
    calc key found = key a := key_eq_of_same hsameA
      _ = key b := (sameValue_iff_key hlistable hlistable').mp hsame
      _ = key found' := (key_eq_of_same hsameB).symm
  have hfirsts : Listed (firstsBy sameValue (listable name (objects.map .object))) :=
    listed_firstsBy fun value hvalue => (List.mem_filter.mp hvalue).2
  have hone : found = found' := hfirsts.eq_of_key hfound hfound' hkey
  have huniqueFound : found.UniqueNames :=
    uniqueNames_of_mem_observed unique (List.mem_filter.mp (mem_of_mem_firstsBy hfound)).1
  rw [← hone] at hsameB
  rw [Json.same_trans (Json.same_symm huniqueFound hsameA) hsameB] at hdiffer
  cases hdiffer

end Inferrer

end JsonShape
