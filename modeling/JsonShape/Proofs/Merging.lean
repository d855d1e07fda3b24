import JsonShape.Inference.Infer
import JsonShape.Proofs.Firsts
import JsonShape.Proofs.Reading

/-!
# What merging keeps

Schemas that are merged are either no choices, or nothing but a choice of such schemas. For whatever
it means that a schema without a choice fits a value, as long as equal schemas fit the same values
and widening keeps them, one alternative of a merged schema fits what one of the two schemas fitted
(`Schema.covers_merge`).

Main statement: `Inferrer.gathers_all`, after the properties of several objects are merged, each has
a schema with an alternative for every value that was seen.
-/

namespace JsonShape

namespace Schema

/-- The schema is no choice. -/
def Plain : Schema → Prop
  | boolean _ => False
  | object _ parts => parts.oneOf = none

/-- The schema is an unmixed one, or nothing but a choice of such schemas. -/
def Mergeable (unmixed : Schema → Prop) (schema : Schema) : Prop :=
  unmixed schema
    ∨ ∃ alternatives, schema = oneOf alternatives ∧ alternatives ≠ []
      ∧ ∀ part ∈ alternatives, unmixed part

/-- What unmixed schemas are can be chosen, if these are no choices and the schema for numbers is
among them. -/
structure Unmixed (unmixed : Schema → Prop) : Prop where
  plain : ∀ {schema}, unmixed schema → schema.Plain
  number : unmixed (typed .number)

/-- An alternative of the schema fits the value. -/
def Covers (fits : Schema → Json → Prop) (schema : Schema) (value : Json) : Prop :=
  ∃ alternative ∈ schema.alternatives, fits alternative value

/-- A relation that merging can keep: equal schemas fit the same values, and a schema for numbers
fits what one for integers or numbers does. -/
structure Coverable (fits : Schema → Json → Prop) : Prop where
  same : ∀ {schema other value}, schema.same other = true → fits other value → fits schema value
  widen : ∀ {schema value}, (schema.isType .integer = true ∨ schema.isType .number = true) →
    fits schema value → fits (typed .number) value

theorem unmixed_plain : Unmixed Plain := ⟨id, rfl⟩

variable {fits : Schema → Json → Prop} {schema first second : Schema} {value : Json}

theorem Plain.asObject_eq (h : schema.Plain) : schema.asObject = schema := by
  cases schema with
  | boolean _ => cases h
  | object _ _ => rfl

theorem Plain.alternatives_eq (h : schema.Plain) : schema.alternatives = [schema] := by
  cases schema with
  | boolean _ => cases h
  | object facets parts =>
    show (parts.oneOf).getD _ = _
    rw [show parts.oneOf = none from h]
    rfl

theorem Plain.covers (h : schema.Plain) (hfits : fits schema value) : Covers fits schema value := by
  rw [Covers, h.alternatives_eq]
  exact ⟨schema, List.mem_singleton_self _, hfits⟩

section Mergeable

variable {unmixed : Schema → Prop} (isUnmixed : Unmixed unmixed)

include isUnmixed

theorem Mergeable.asObject_eq (h : schema.Mergeable unmixed) : schema.asObject = schema := by
  rcases h with h | ⟨_, rfl, _⟩
  · exact (isUnmixed.plain h).asObject_eq
  · rfl

theorem Mergeable.of_mem (h : schema.Mergeable unmixed) {alternative : Schema}
    (hmem : alternative ∈ schema.alternatives) : unmixed alternative := by
  rcases h with h | ⟨alternatives, rfl, _, hall⟩
  · rw [(isUnmixed.plain h).alternatives_eq, List.mem_singleton] at hmem
    rw [hmem]
    exact h
  · exact hall _ hmem

theorem plain_of_isType {type : TypeName} (h : schema.Mergeable unmixed)
    (htype : schema.isType type = true) : schema.Plain := by
  rcases h with h | ⟨_, rfl, _⟩
  · exact isUnmixed.plain h
  · cases htype

/-- A schema that equals one without a choice has none itself. -/
theorem plain_of_same (hsecond : second.Plain) (hsame : first.same second = true)
    (h : first.Mergeable unmixed) : first.Plain := by
  rcases h with h | ⟨alternatives, rfl, _⟩
  · exact isUnmixed.plain h
  · obtain ⟨facets, parts, rfl, _, hparts⟩ := same_object hsame
    obtain ⟨others, hothers, _⟩ := Parts.relate_oneOf hparts rfl
    exact absurd hothers (by rw [show parts.oneOf = none from hsecond]; simp)

end Mergeable

/-! ### Lists without equal schemas -/

theorem dedup_eq (schemas : List Schema) : dedup schemas = firstsBy same schemas := rfl

theorem mem_of_mem_dedup {schemas : List Schema} (h : schema ∈ dedup schemas) :
    schema ∈ schemas :=
  mem_of_mem_firstsBy h

/-- A schema that is left out is equal to one that stays. -/
theorem exists_mem_dedup {schemas : List Schema} (h : schema ∈ schemas) :
    ∃ part ∈ dedup schemas, part = schema ∨ part.same schema = true :=
  exists_mem_firstsBy h

theorem fits_dedup (coverable : Coverable fits) {schemas : List Schema}
    (h : ∃ part ∈ schemas, fits part value) : ∃ part ∈ dedup schemas, fits part value := by
  obtain ⟨part, hpart, hfits⟩ := h
  obtain ⟨other, hother, heq⟩ := exists_mem_dedup hpart
  refine ⟨other, hother, ?_⟩
  rcases heq with rfl | hsame
  · exact hfits
  · exact coverable.same hsame hfits

theorem dedup_ne_nil {schemas : List Schema} (h : schemas ≠ []) : dedup schemas ≠ [] := by
  obtain ⟨part, hpart⟩ := List.exists_mem_of_ne_nil schemas h
  obtain ⟨found, hfound, -⟩ := exists_mem_dedup hpart
  exact List.ne_nil_of_mem hfound

theorem alternatives_choice {schemas : List Schema} (plain : ∀ part ∈ schemas, part.Plain) :
    (choice schemas).alternatives = schemas := by
  unfold choice
  split
  · next part => exact (plain part (List.mem_singleton_self _)).alternatives_eq
  · rfl

section Merge

variable {unmixed : Schema → Prop}

theorem mergeable_choice {schemas : List Schema} (hne : schemas ≠ [])
    (h : ∀ part ∈ schemas, unmixed part) : (choice schemas).Mergeable unmixed := by
  unfold choice
  split
  · next part => exact .inl (h part (List.mem_singleton_self _))
  · exact .inr ⟨schemas, rfl, hne, h⟩

/-! ### One merge -/

/-- The alternatives between which a merge may choose. -/
def joined (first second : Schema) : List Schema :=
  first.asObject.alternatives ++ [second.asObject]

/-- The ways in which two schemas are merged, boolean schemas with the placeholder that stands for
them. -/
theorem merge_outcomes (first second : Schema) :
    (first.asObject.same second.asObject = true ∧ first.merge second = first)
      ∨ first.asObject.same second.asObject = false
        ∧ (first.asObject.isWidening second.asObject = true ∧ first.merge second = typed .number
          ∨ first.asObject.isWidening second.asObject = false
            ∧ (second.asObject.isIn first.asObject.alternatives = true
                ∧ first.merge second = first.asObject
              ∨ second.asObject.isIn first.asObject.alternatives = false
                ∧ first.merge second = choice (dedup (first.joined second)))) := by
  unfold merge
  dsimp only
  split
  · next hsame => exact .inl ⟨hsame, rfl⟩
  · next hsame =>
    refine .inr ⟨Bool.eq_false_iff.mpr hsame, ?_⟩
    split
    · next hwiden => exact .inl ⟨hwiden, rfl⟩
    · next hwiden =>
      refine .inr ⟨Bool.eq_false_iff.mpr hwiden, ?_⟩
      split
      · next hin => exact .inl ⟨hin, rfl⟩
      · next hin => exact .inr ⟨Bool.eq_false_iff.mpr hin, rfl⟩

variable (isUnmixed : Unmixed unmixed)

include isUnmixed

/-- The ways in which two schemas are merged. -/
theorem merge_cases (hfirst : first.Mergeable unmixed) (hsecond : unmixed second) :
    (first.same second = true ∧ first.merge second = first)
      ∨ (first.isWidening second = true ∧ first.merge second = typed .number)
      ∨ (second.isIn first.alternatives = true ∧ first.merge second = first)
      ∨ first.merge second = choice (dedup (first.alternatives ++ [second])) := by
  have houtcomes := merge_outcomes first second
  rw [joined, hfirst.asObject_eq isUnmixed, (isUnmixed.plain hsecond).asObject_eq] at houtcomes
  obtain hsame | ⟨-, hwiden | ⟨-, hin | ⟨-, hchosen⟩⟩⟩ := houtcomes
  · exact .inl hsame
  · exact .inr (.inl hwiden)
  · exact .inr (.inr (.inl hin))
  · exact .inr (.inr (.inr hchosen))

theorem unmixed_of_mem_joined (hfirst : first.Mergeable unmixed) (hsecond : unmixed second) :
    ∀ part ∈ dedup (first.alternatives ++ [second]), unmixed part := by
  intro part hpart
  rcases List.mem_append.mp (mem_of_mem_dedup hpart) with h | h
  · exact hfirst.of_mem isUnmixed h
  · rw [List.mem_singleton.mp h]
    exact hsecond

theorem mergeable_merge (hfirst : first.Mergeable unmixed) (hsecond : unmixed second) :
    (first.merge second).Mergeable unmixed := by
  rcases merge_cases isUnmixed hfirst hsecond with ⟨_, h⟩ | ⟨_, h⟩ | ⟨_, h⟩ | h <;> rw [h]
  · exact hfirst
  · exact .inl isUnmixed.number
  · exact hfirst
  · exact mergeable_choice (dedup_ne_nil (by simp)) (unmixed_of_mem_joined isUnmixed hfirst hsecond)

/-- A merge keeps what was covered, and covers what the second schema fits. -/
theorem covers_merge (coverable : Coverable fits) (hfirst : first.Mergeable unmixed)
    (hsecond : unmixed second) (h : Covers fits first value ∨ fits second value) :
    Covers fits (first.merge second) value := by
  rcases merge_cases isUnmixed hfirst hsecond with
    ⟨hsame, heq⟩ | ⟨hwiden, heq⟩ | ⟨hin, heq⟩ | heq <;> rw [heq]
  · rcases h with h | h
    · exact h
    · have hplain := plain_of_same isUnmixed (isUnmixed.plain hsecond) hsame hfirst
      exact hplain.covers (coverable.same hsame h)
  · have htypes : (first.isType .integer = true ∨ first.isType .number = true)
        ∧ (second.isType .integer = true ∨ second.isType .number = true) := by
      simp only [isWidening, Bool.or_eq_true, Bool.and_eq_true] at hwiden
      rcases hwiden with ⟨h, h'⟩ | ⟨h, h'⟩
      · exact ⟨.inl h, .inr h'⟩
      · exact ⟨.inr h, .inl h'⟩
    -- a choice has no type, so a schema that is widened is its own only alternative
    have hplain : first.Plain := by
      rcases htypes.1 with h | h <;> exact plain_of_isType isUnmixed hfirst h
    have hnumber : (typed .number).Plain := rfl
    rcases h with ⟨alternative, hmem, hfits⟩ | h
    · rw [hplain.alternatives_eq, List.mem_singleton] at hmem
      rw [hmem] at hfits
      exact hnumber.covers (coverable.widen htypes.1 hfits)
    · exact hnumber.covers (coverable.widen htypes.2 h)
  · rcases h with h | h
    · exact h
    · obtain ⟨other, hmem, hsame⟩ := List.any_eq_true.mp hin
      exact ⟨other, hmem, coverable.same hsame h⟩
  · rw [Covers, alternatives_choice fun part hpart =>
      isUnmixed.plain (unmixed_of_mem_joined isUnmixed hfirst hsecond part hpart)]
    refine fits_dedup coverable ?_
    rcases h with ⟨alternative, hmem, hfits⟩ | h
    · exact ⟨alternative, List.mem_append_left _ hmem, hfits⟩
    · exact ⟨second, by simp, h⟩

end Merge

end Schema

namespace Inferrer

open Members Schema

/-! ### Merging the properties of objects -/

/-- Merged properties have one schema for each name, with an alternative for every noted value. -/
structure Gathers (unmixed : Schema → Prop) (fits : Schema → Json → Prop)
    (merged : Members Schema) (noted : String → Json → Prop) : Prop where
  nodup : (names merged).Nodup
  mergeable : ∀ name schema, merged.lookup name = some schema → schema.Mergeable unmixed
  covers : ∀ name value, noted name value →
    ∃ schema, merged.lookup name = some schema ∧ Covers fits schema value

variable {unmixed : Schema → Prop} {fits : Schema → Json → Prop} {merged : Members Schema}
  {noted : String → Json → Prop}

theorem Gathers.mono {fewer : String → Json → Prop} (h : Gathers unmixed fits merged noted)
    (himp : ∀ name value, fewer name value → noted name value) :
    Gathers unmixed fits merged fewer :=
  ⟨h.nodup, h.mergeable, fun name value hnoted => h.covers name value (himp name value hnoted)⟩

theorem gathers_nil : Gathers unmixed fits [] fun _ _ => False :=
  ⟨List.nodup_nil, fun _ _ h => (by cases h), fun _ _ h => h.elim⟩

/-- The step: one property is merged into those seen before. -/
theorem Gathers.insert (isUnmixed : Unmixed unmixed) (coverable : Coverable fits)
    (h : Gathers unmixed fits merged noted) (name : String) {schema : Schema}
    (hschema : unmixed schema) :
    Gathers unmixed fits
      (Members.insert merged name
        ((merged.lookup name).elim schema fun known => known.merge schema))
      (fun key value => noted key value ∨ key = name ∧ fits schema value) where
  nodup := nodup_insert h.nodup ..
  mergeable := by
    intro key found hfound
    rw [lookup_insert] at hfound
    split at hfound
    · cases hfound
      cases hknown : merged.lookup name with
      | none => exact .inl hschema
      | some known => exact mergeable_merge isUnmixed (h.mergeable name known hknown) hschema
    · exact h.mergeable key found hfound
  covers := by
    intro key value hnoted
    rw [lookup_insert]
    -- only what is noted under the name of the property needs the merge
    by_cases hkey : name = key
    · subst hkey
      refine ⟨_, if_pos rfl, ?_⟩
      have hvalue : noted name value ∨ fits schema value := hnoted.imp_right And.right
      cases hknown : merged.lookup name with
      | none =>
        rcases hvalue with hold | hnew
        · obtain ⟨found, hfound, _⟩ := h.covers name value hold
          rw [hknown] at hfound
          cases hfound
        · exact (isUnmixed.plain hschema).covers hnew
      | some known =>
        refine covers_merge isUnmixed coverable (h.mergeable name known hknown) hschema ?_
        rcases hvalue with hold | hnew
        · obtain ⟨found, hfound, hcovers⟩ := h.covers name value hold
          rw [hknown] at hfound
          cases hfound
          exact .inl hcovers
        · exact .inr hnew
    · rw [if_neg hkey]
      rcases hnoted with hold | ⟨rfl, _⟩
      · exact h.covers key value hold
      · exact absurd rfl hkey

theorem Gathers.mergeProperties (isUnmixed : Unmixed unmixed) (coverable : Coverable fits)
    {properties : Members Schema} (h : Gathers unmixed fits merged noted)
    (hproperties : ∀ entry ∈ properties, unmixed entry.2) :
    Gathers unmixed fits (Inferrer.mergeProperties merged properties)
      (fun name value => noted name value ∨
        ∃ schema, (name, schema) ∈ properties ∧ fits schema value) := by
  induction properties generalizing merged noted with
  | nil => exact h.mono fun name value hnoted => hnoted.elim id fun ⟨_, hmem, _⟩ => (by cases hmem)
  | cons entry rest ih =>
    rw [List.forall_mem_cons] at hproperties
    refine (ih (h.insert isUnmixed coverable entry.1 hproperties.1) hproperties.2).mono ?_
    rintro name value (hold | ⟨schema, hmem, hfits⟩)
    · exact .inl (.inl hold)
    · rcases List.mem_cons.mp hmem with heq | hrest
      · subst heq
        exact .inl (.inr ⟨rfl, hfits⟩)
      · exact .inr ⟨schema, hrest, hfits⟩

/-- The run: after all objects, every value of a property that a schema fitted is covered. -/
theorem gathers_all (isUnmixed : Unmixed unmixed) (coverable : Coverable fits)
    {objects : List (Members Schema)}
    (hobjects : ∀ properties ∈ objects, ∀ entry ∈ properties, unmixed entry.2) :
    Gathers unmixed fits (objects.foldl Inferrer.mergeProperties []) (fun name value =>
      ∃ properties ∈ objects, ∃ schema, (name, schema) ∈ properties ∧ fits schema value) := by
  -- the induction is on the objects that are left, for whatever was gathered before
  have hrun : ∀ merged noted, Gathers unmixed fits merged noted →
      Gathers unmixed fits (objects.foldl Inferrer.mergeProperties merged) (fun name value =>
        noted name value ∨
          ∃ properties ∈ objects, ∃ schema, (name, schema) ∈ properties ∧ fits schema value) := by
    induction objects with
    | nil =>
      exact fun _ _ h => h.mono fun _ _ hnoted => hnoted.elim id fun ⟨_, hmem, _⟩ => (by cases hmem)
    | cons properties rest ih =>
      intro merged noted h
      rw [List.forall_mem_cons] at hobjects
      refine (ih hobjects.2 _ _ (h.mergeProperties isUnmixed coverable hobjects.1)).mono ?_
      rintro name value (hold | ⟨found, hmem, hschema⟩)
      · exact .inl (.inl hold)
      · rcases List.mem_cons.mp hmem with rfl | hrest
        · exact .inl (.inr hschema)
        · exact .inr ⟨found, hrest, hschema⟩
  exact (hrun _ _ gathers_nil).mono fun _ _ h => .inr h

end Inferrer

end JsonShape
