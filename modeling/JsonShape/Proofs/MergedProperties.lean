import JsonShape.Proofs.Gaps
import Mathlib.Data.List.DropRight

/-!
# Merged properties in closed form

The properties of objects are merged one object after the other. What a property becomes in the end
can be said at once: of the schemas of its values, the numbers that come first become one if some
are integers and some are not, equal schemas are taken once, and the rest is a choice.

* **A run of merges** (`Schema.foldl_merge`) — schemas without alternatives that are merged one by
  one become the choice between the distinct ones, after the numbers at the beginning are widened.
* **A property** (`Inferrer.lookup_mergedProperties`) — its merged schema is that of the schemas of
  its values.
-/

namespace JsonShape

open Members

namespace Schema

variable {schema : Schema} {schemas : List Schema}

/-! ### Lists of different schemas -/

theorem isIn_iff : schema.isIn schemas = true ↔ ∃ other ∈ schemas, other.same schema = true :=
  List.any_eq_true

/-- No schema of the list equals an earlier one. -/
def Distinct (schemas : List Schema) : Prop :=
  schemas.Pairwise fun earlier later => earlier.same later = false

theorem addNew_of_isIn (h : schema.isIn schemas = true) : addNew schemas schema = schemas :=
  if_pos h

theorem distinct_dedup (schemas : List Schema) : Distinct (dedup schemas) :=
  pairwise_firstsBy schemas

/-- Nothing is left out of a list of different schemas. -/
theorem Distinct.dedup_eq (distinct : Distinct schemas) : dedup schemas = schemas :=
  firstsBy_eq_self distinct

theorem dedup_append_singleton (schemas : List Schema) (new : Schema) :
    dedup (schemas ++ [new]) = addNew (dedup schemas) new :=
  firstsBy_append_singleton schemas new

/-! ### One merge -/

/-- A choice has an alternative only if it is that alternative, or a real choice. -/
theorem choice_cases (schemas : List Schema) :
    (∃ schema, schemas = [schema] ∧ choice schemas = schema)
      ∨ schemas.length ≠ 1 ∧ choice schemas = oneOf schemas := by
  unfold choice
  split
  · next schema => exact .inl ⟨schema, rfl, rfl⟩
  · next hne =>
    refine .inr ⟨fun hlength => ?_, rfl⟩
    obtain ⟨schema, rfl⟩ := List.length_eq_one_iff.mp hlength
    exact hne schema rfl

/-- To merge a schema into a choice is to add it to the alternatives, unless two numbers meet. -/
theorem merge_choice {new : Schema} (distinct : Distinct schemas) (nonempty : schemas ≠ [])
    (plain : ∀ part ∈ schemas, part.Plain) (hnew : new.Plain)
    (hwiden : ∀ schema, schemas = [schema] → schema.isWidening new = false) :
    (choice schemas).merge new = choice (addNew schemas new) := by
  have hmergeable : (choice schemas).Mergeable Plain := mergeable_choice nonempty plain
  have halternatives := alternatives_choice plain
  rcases merge_cases unmixed_plain hmergeable hnew with
    ⟨hsame, heq⟩ | ⟨hwide, heq⟩ | ⟨hin, heq⟩ | heq <;> rw [heq]
  · -- a choice equals no plain schema, so there is just the one
    have hplain := plain_of_same unmixed_plain hnew hsame hmergeable
    obtain ⟨schema, rfl, -⟩ | ⟨-, hchoice⟩ := choice_cases schemas
    · rw [addNew_of_isIn (isIn_iff.mpr ⟨schema, by simp, hsame⟩)]
    · rw [hchoice] at hplain
      cases hplain
  · obtain ⟨schema, rfl, hchoice⟩ | ⟨-, hchoice⟩ := choice_cases schemas
    · rw [hchoice, hwiden schema rfl] at hwide
      cases hwide
    · rw [hchoice] at hwide
      cases hwide
  · rw [halternatives] at hin
    rw [addNew_of_isIn hin]
  · rw [halternatives, dedup_append_singleton, distinct.dedup_eq]

/-! ### Numbers that are widened -/

/-- Whether this is a schema for integers or for numbers. -/
def isNumeric (schema : Schema) : Bool := schema.isType .integer || schema.isType .number

/-- The schemas of numbers, or one schema for all if there are two types of them. -/
def widenedNumbers (numbers : List Schema) : List Schema :=
  if numbers.any (·.isType .integer) && numbers.any (·.isType .number) then [typed .number]
  else numbers

/-- The schemas with those of numbers at the beginning widened. -/
def widened (schemas : List Schema) : List Schema :=
  widenedNumbers (schemas.takeWhile isNumeric) ++ schemas.dropWhile isNumeric

/-- A schema that is no choice, and has only a type if it is one for numbers. -/
structure Bare (schema : Schema) : Prop where
  plain : schema.Plain
  number : schema.isNumeric = true → schema = typed .integer ∨ schema = typed .number

theorem bare_number : (typed .number).Bare := ⟨rfl, fun _ => .inr rfl⟩

theorem mem_widened (h : schema ∈ widened schemas) : schema = typed .number ∨ schema ∈ schemas := by
  rcases List.mem_append.mp h with hnumber | hrest
  · unfold widenedNumbers at hnumber
    split at hnumber
    · exact .inl (List.mem_singleton.mp hnumber)
    · exact .inr ((List.takeWhile_sublist _).mem hnumber)
  · exact .inr ((List.dropWhile_sublist _).mem hrest)

theorem widened_ne_nil (nonempty : schemas ≠ []) : widened schemas ≠ [] := by
  intro h
  obtain ⟨hnumbers, hrest⟩ := List.append_eq_nil_iff.mp h
  refine nonempty ?_
  rw [← List.takeWhile_append_dropWhile (p := isNumeric) (l := schemas), hrest, List.append_nil]
  unfold widenedNumbers at hnumbers
  split at hnumbers
  · cases hnumbers
  · exact hnumbers

theorem bare_widened (bare : ∀ part ∈ schemas, part.Bare) :
    ∀ part ∈ widened schemas, part.Bare := by
  intro part hpart
  rcases mem_widened hpart with rfl | hmem
  · exact bare_number
  · exact bare part hmem

theorem widened_of_numbers (h : ∀ part ∈ schemas, part.isNumeric = true) :
    widened schemas = widenedNumbers schemas := by
  rw [widened, List.takeWhile_eq_self_iff.mpr h, List.dropWhile_eq_nil_iff.mpr h, List.append_nil]

/-- Where integers and numbers do not meet, nothing is widened. -/
theorem widened_eq_self
    (h : ¬ (schemas.any (·.isType .integer) && schemas.any (·.isType .number)) = true) :
    widened schemas = schemas := by
  have hnumbers : ¬ ((schemas.takeWhile isNumeric).any (·.isType .integer)
      && (schemas.takeWhile isNumeric).any (·.isType .number)) = true := by
    simp only [Bool.and_eq_true, List.any_eq_true] at h ⊢
    rintro ⟨⟨integer, hinteger, htype⟩, number, hnumber, htype'⟩
    have hsub := List.takeWhile_sublist (p := isNumeric) (l := schemas)
    exact h ⟨⟨integer, hsub.mem hinteger, htype⟩, number, hsub.mem hnumber, htype'⟩
  rw [widened, widenedNumbers, if_neg hnumbers, List.takeWhile_append_dropWhile]

/-- After something that is no number, nothing is widened any more. -/
theorem widened_append_singleton {new : Schema}
    (h : ¬ ∀ part ∈ schemas ++ [new], part.isNumeric = true) :
    widened (schemas ++ [new]) = widened schemas ++ [new] := by
  -- either the last one is the first that is no number, or there was one before
  by_cases hall : ∀ part ∈ schemas, part.isNumeric = true
  · have hnew : ¬ new.isNumeric = true := fun hnew => h fun part hpart =>
      (List.mem_append.mp hpart).elim (hall part) fun hlast => List.mem_singleton.mp hlast ▸ hnew
    rw [widened_of_numbers hall, widened, List.takeWhile_append_of_pos hall,
      List.dropWhile_append_of_pos hall, List.takeWhile_cons_of_neg hnew,
      List.dropWhile_cons_of_neg hnew, List.append_nil]
  · have hrest : ¬ schemas.dropWhile isNumeric = [] := mt List.dropWhile_eq_nil_iff.mp hall
    have hlength : ¬ (schemas.takeWhile isNumeric).length = schemas.length := by
      intro heq
      have hsum := congrArg List.length (List.takeWhile_append_dropWhile (p := isNumeric)
        (l := schemas))
      rw [List.length_append] at hsum
      exact hrest (List.length_eq_zero_iff.mp (by omega))
    rw [widened, List.takeWhile_append, if_neg hlength, List.dropWhile_append,
      if_neg (mt List.isEmpty_iff.mp hrest), ← List.append_assoc, widened]

/-- Equal schemas are taken once. -/
theorem Distinct.eq_singleton (distinct : Distinct schemas) (nonempty : schemas ≠ [])
    (h : ∀ first ∈ schemas, ∀ second ∈ schemas, first.same second = true) :
    ∃ schema, schemas = [schema] := by
  match schemas with
  | [] => exact absurd rfl nonempty
  | [schema] => exact ⟨schema, rfl⟩
  | first :: second :: rest =>
    have hdiffer := (List.pairwise_cons.mp distinct).1 second List.mem_cons_self
    rw [h first List.mem_cons_self second (by simp)] at hdiffer
    cases hdiffer

theorem dedup_of_eq (nonempty : schemas ≠ []) (hself : schema.same schema = true)
    (h : ∀ part ∈ schemas, part = schema) : dedup schemas = [schema] := by
  have hmem : ∀ part ∈ dedup schemas, part = schema := fun part hpart =>
    h part (mem_of_mem_dedup hpart)
  obtain ⟨part, heq⟩ := (distinct_dedup schemas).eq_singleton (dedup_ne_nil nonempty)
    fun first hfirst second hsecond => by rwa [hmem first hfirst, hmem second hsecond]
  rw [heq, hmem part (heq ▸ List.mem_singleton.mpr rfl)]

/-- The type of schemas of numbers. -/
def numericType (schemas : List Schema) : TypeName :=
  if schemas.any (·.isType .number) then .number else .integer

/-- Schemas of numbers become one. -/
theorem choice_numbers (nonempty : schemas ≠ []) (bare : ∀ part ∈ schemas, part.Bare)
    (h : ∀ part ∈ schemas, part.isNumeric = true) :
    choice (dedup (widened schemas)) = typed (numericType schemas) := by
  rw [widened_of_numbers h]
  have htyped := fun part hpart => (bare part hpart).number (h part hpart)
  unfold widenedNumbers numericType
  -- all schemas are one of two; if both are there, one takes the place of all
  by_cases hnumber : schemas.any (·.isType .number) = true
  · rw [if_pos hnumber]
    by_cases hinteger : schemas.any (·.isType .integer) = true
    · rw [if_pos (by rw [hinteger, hnumber]; rfl)]
      rfl
    · rw [if_neg (fun hboth => hinteger (Bool.and_eq_true_iff.mp hboth).1), dedup_of_eq nonempty
        (by rfl : (typed .number).same (typed .number) = true)]
      · rfl
      · intro part hpart
        refine (htyped part hpart).resolve_left fun heq => hinteger ?_
        exact List.any_eq_true.mpr ⟨part, hpart, heq ▸ rfl⟩
  · rw [if_neg hnumber, if_neg (fun hboth => hnumber (Bool.and_eq_true_iff.mp hboth).2),
      dedup_of_eq nonempty (by rfl : (typed .integer).same (typed .integer) = true)]
    · rfl
    · intro part hpart
      refine (htyped part hpart).resolve_right fun heq => hnumber ?_
      exact List.any_eq_true.mpr ⟨part, hpart, heq ▸ rfl⟩

/-! ### All merges -/

/-- To merge number schemas gives the schema for both. -/
theorem merge_numbers {new : Schema}
    (bare : ∀ part ∈ schemas ++ [new], part.Bare)
    (h : ∀ part ∈ schemas ++ [new], part.isNumeric = true) :
    (typed (numericType schemas)).merge new = typed (numericType (schemas ++ [new])) := by
  have hnew := (bare new (by simp)).number (h new (by simp))
  unfold numericType
  rw [List.any_append]
  cases schemas.any (·.isType .number) <;> rcases hnew with rfl | rfl <;> rfl

/-- Only numbers can be widened, and then all schemas before are such. -/
theorem isNumeric_of_isWidening {first second : Schema} (h : first.isWidening second = true) :
    first.isNumeric = true ∧ second.isNumeric = true := by
  simp only [isWidening, isNumeric, Bool.or_eq_true, Bool.and_eq_true] at h ⊢
  rcases h with ⟨h, h'⟩ | ⟨h, h'⟩
  · exact ⟨.inl h, .inr h'⟩
  · exact ⟨.inr h, .inl h'⟩

theorem isNumeric_eq_of_same {first second : Schema} (h : first.same second = true) :
    first.isNumeric = second.isNumeric := by
  rw [isNumeric, isNumeric, isType_eq_of_same h, isType_eq_of_same h]

theorem isNumeric_of_dedup_widened (h : dedup (widened schemas) = [schema])
    (hnumeric : schema.isNumeric = true) : ∀ part ∈ schemas, part.isNumeric = true := by
  have hall : ∀ part ∈ widened schemas, part.isNumeric = true := by
    intro part hpart
    obtain ⟨found, hfound, heq⟩ := exists_mem_dedup hpart
    rw [h] at hfound
    obtain rfl := List.mem_singleton.mp hfound
    rcases heq with rfl | hsame
    · exact hnumeric
    · rwa [← isNumeric_eq_of_same hsame]
  -- what is left after the numbers would begin with something else
  have hrest : schemas.dropWhile isNumeric = [] := by
    rw [← List.dropWhile_idempotent]
    exact List.dropWhile_eq_nil_iff.mpr fun part hpart =>
      hall part (List.mem_append_right _ hpart)
  exact List.dropWhile_eq_nil_iff.mp hrest

/-- Schemas that are merged one after the other give the choice between the distinct ones. The
induction is on the schemas that came before the last. -/
theorem foldl_merge (first : Schema) (rest : List Schema)
    (bare : ∀ part ∈ first :: rest, part.Bare) :
    rest.foldl merge first = choice (dedup (widened (first :: rest))) := by
  induction rest using List.reverseRecOn with
  | nil =>
    have hone : ¬ ([first].any (·.isType .integer) && [first].any (·.isType .number)) = true := by
      intro hboth
      simp only [List.any_cons, List.any_nil, Bool.or_false, Bool.and_eq_true] at hboth
      exact TypeName.noConfusion (Inferrer.isType_unique hboth.1 hboth.2)
    rw [widened_eq_self hone]
    rfl
  | append_singleton before last ih =>
    have hbefore : ∀ part ∈ first :: before, part.Bare := fun part hpart =>
      bare part (List.cons_append ▸ List.mem_append_left [last] hpart)
    rw [List.foldl_append, List.foldl_cons, List.foldl_nil, ih hbefore]
    rw [← List.cons_append] at bare ⊢
    -- up to here there are only numbers, which are one schema, or something else has been seen
    by_cases hall : ∀ part ∈ first :: before ++ [last], part.isNumeric = true
    · have hnumbers : ∀ part ∈ first :: before, part.isNumeric = true := fun part hpart =>
        hall part (List.mem_append_left _ hpart)
      rw [choice_numbers (List.cons_ne_nil _ _) hbefore hnumbers,
        choice_numbers (by simp) bare hall, merge_numbers bare hall]
    · rw [widened_append_singleton hall, dedup_append_singleton]
      refine merge_choice (distinct_dedup _) (dedup_ne_nil ?_) ?_ (bare last (by simp)).plain ?_
      · exact widened_ne_nil (List.cons_ne_nil _ _)
      · exact fun part hpart => (bare_widened hbefore part (mem_of_mem_dedup hpart)).plain
      · intro schema hone
        refine Bool.eq_false_iff.mpr fun hwiden => hall fun part hpart => ?_
        obtain ⟨hschema, hlast⟩ := isNumeric_of_isWidening hwiden
        rcases List.mem_append.mp hpart with hpart | hpart
        · exact isNumeric_of_dedup_widened hone hschema part hpart
        · rwa [List.mem_singleton.mp hpart]

end Schema

namespace Inferrer

open Schema Refinement

variable {inferrer : Inferrer}

/-! ### The schemas of a property -/

/-- One more schema for a property that may have one. -/
def absorb (seen : Option Schema) (schema : Schema) : Option Schema :=
  some (seen.elim schema fun known => known.merge schema)

theorem lookup_mergeProperties {seen properties : Members Schema}
    (nodup : (names properties).Nodup) (name : String) :
    (mergeProperties seen properties).lookup name
      = (properties.lookup name).toList.foldl absorb (seen.lookup name) := by
  induction properties generalizing seen with
  | nil => rfl
  | cons entry rest ih =>
    obtain ⟨key, schema⟩ := entry
    rw [names_cons, List.nodup_cons] at nodup
    show (mergeProperties (Members.insert seen key _) rest).lookup name = _
    rw [ih nodup.2, lookup_insert, lookup_cons]
    split
    · next hkey =>
      subst hkey
      rw [lookup_eq_none.mpr nodup.1]
      rfl
    · rfl

theorem lookup_foldl_mergeProperties {seen : Members Schema} {objects : List (Members Schema)}
    (nodup : ∀ properties ∈ objects, (names properties).Nodup) (name : String) :
    (objects.foldl mergeProperties seen).lookup name
      = (objects.filterMap (List.lookup name)).foldl absorb (seen.lookup name) := by
  induction objects generalizing seen with
  | nil => rfl
  | cons properties rest ih =>
    rw [List.forall_mem_cons] at nodup
    rw [List.foldl_cons, ih nodup.2, lookup_mergeProperties nodup.1, List.filterMap_cons]
    cases List.lookup name properties <;> rfl

theorem foldl_absorb (first : Schema) (rest : List Schema) :
    (first :: rest).foldl absorb none = some (rest.foldl merge first) := by
  -- once there is a schema, the others are merged into it
  have hrun : ∀ known, rest.foldl absorb (some known) = some (rest.foldl merge known) := by
    induction rest with
    | nil => exact fun _ => rfl
    | cons schema rest ih => exact fun known => ih (known.merge schema)
  exact hrun first

theorem bare_infer (value : Json) : (inferrer.infer value).Bare where
  plain := plain_infer inferrer value
  number := by
    intro h
    cases value with
    | number number =>
      show typed number.kind = typed .integer ∨ typed number.kind = typed .number
      unfold Number.kind
      split
      · exact .inl rfl
      · exact .inr rfl
    | _ =>
      rw [isNumeric, isType_infer, isType_infer] at h
      cases h

variable (inferrer)

/-- The schema of a property with these values. -/
def propertySchema (values : List Json) : Schema :=
  choice (dedup (widened (values.map inferrer.infer)))

variable {inferrer}

theorem mem_dedup_widened {values : List Json} {part : Schema}
    (h : part ∈ dedup (widened (values.map inferrer.infer))) :
    part = typed .number ∨ ∃ value ∈ values, inferrer.infer value = part :=
  (mem_widened (mem_of_mem_dedup h)).imp_right List.mem_map.mp

/-- The merged schema of a property is made from the values that were observed. -/
theorem lookup_mergedProperties {objects : List (Members Json)}
    (nodup : ∀ members ∈ objects, (names members).Nodup) (name : String) :
    (inferrer.mergedProperties objects).lookup name =
      if observed name (objects.map .object) = [] then none
      else some (inferrer.propertySchema (observed name (objects.map .object))) := by
  have hschemas : (objects.map (Parts.mapMembers inferrer.infer)).filterMap (List.lookup name)
      = (observed name (objects.map .object)).map inferrer.infer := by
    rw [observed, List.filterMap_map, List.filterMap_map, List.map_filterMap]
    exact List.filterMap_congr fun members _ => lookup_mapMembers inferrer.infer members name
  have hnodup : ∀ properties ∈ objects.map (Parts.mapMembers inferrer.infer),
      (names properties).Nodup := by
    intro properties hproperties
    obtain ⟨members, hmembers, rfl⟩ := List.mem_map.mp hproperties
    rw [names_mapMembers]
    exact nodup members hmembers
  rw [mergedProperties, lookup_foldl_mergeProperties hnodup, hschemas, propertySchema]
  cases observed name (objects.map .object) with
  | nil => rfl
  | cons first rest =>
    rw [if_neg (List.cons_ne_nil _ _), List.map_cons, List.lookup_nil, foldl_absorb,
      foldl_merge _ _ ?_]
    rw [← List.map_cons, List.forall_mem_map]
    exact fun value _ => bare_infer value

theorem mem_names_mergedProperties {objects : List (Members Json)}
    (nodup : ∀ members ∈ objects, (names members).Nodup) {name : String} :
    name ∈ names (inferrer.mergedProperties objects) ↔
      observed name (objects.map .object) ≠ [] := by
  rw [← not_iff_not, ← lookup_eq_none, lookup_mergedProperties nodup, not_not]
  split <;> simp [*]

/-! ### The schema of objects -/

variable (inferrer) in
/-- The properties of the schema for objects. -/
def refinedProperties (objects : List (Members Json)) : Members Schema :=
  (inferrer.mergedProperties objects).map fun entry =>
    (entry.1, inferrer.refine (objects.map .object) entry.1 entry.2)

variable (inferrer) in
/-- The names that every object has. -/
def requiredNames (objects : List (Members Json)) : List String :=
  (inferrer.mergedProperties objects).names.filter fun name =>
    objects.all fun members => contains members name

theorem unify_eq (objects : List (Members Json)) :
    inferrer.unify ((objects.map .object).map inferrer.infer) (objects.map .object)
      = objectSchema (inferrer.refinedProperties objects) (inferrer.requiredNames objects) :=
  unify_objects objects

theorem names_refinedProperties (objects : List (Members Json)) :
    names (inferrer.refinedProperties objects) = names (inferrer.mergedProperties objects) := by
  simp only [refinedProperties, names, List.map_map, Function.comp_def]

theorem nodup_mergedProperties (objects : List (Members Json)) :
    (names (inferrer.mergedProperties objects)).Nodup :=
  (gathers_mergedProperties unmixed_plain coverable_true fun _ value (_ : Noted objects _ value) =>
    plain_infer inferrer value).nodup

theorem lookup_refinedProperties {objects : List (Members Json)}
    (nodup : ∀ members ∈ objects, (names members).Nodup) (name : String) :
    (inferrer.refinedProperties objects).lookup name =
      if observed name (objects.map .object) = [] then none
      else some (inferrer.refine (objects.map .object) name
        (inferrer.propertySchema (observed name (objects.map .object)))) := by
  have hmap : (inferrer.refinedProperties objects).lookup name
      = ((inferrer.mergedProperties objects).lookup name).map
        (inferrer.refine (objects.map .object) name) := by
    unfold refinedProperties
    induction inferrer.mergedProperties objects with
    | nil => rfl
    | cons entry rest ih =>
      obtain ⟨key, schema⟩ := entry
      rw [List.map_cons, lookup_cons, lookup_cons, ih]
      split
      · next hkey =>
        rw [hkey]
        rfl
      · rfl
  rw [hmap, lookup_mergedProperties nodup]
  split <;> rfl

end Inferrer

end JsonShape
