import JsonShape.Instance.Assertion
import JsonShape.Proofs.Equality

/-!
# Reading an inferred schema

`Schema.holds` says what the keywords of an inferred schema mean for a value. A `Reading` settles
the two points on which readers may differ: which values a listed value stands for, and how many
alternatives of a choice have to accept. Formats assert nothing.

Main statement: `Schema.holds_of_same`, in the lax reading, equal schemas hold of the same values.
-/

namespace JsonShape

/-- How a schema is read. -/
structure Reading where
  /-- Whether a listed value stands for a value. -/
  isListed : (listed value : Json) → Bool
  /-- Whether a choice accepts, from the verdicts of its alternatives. -/
  chooses : (verdicts : List Bool) → Bool

namespace Reading

/-- Numbers are listed by their binary64 value, and one alternative has to accept. -/
def lax : Reading := ⟨Refinement.sameValue, fun verdicts => verdicts.any id⟩

/-- Values are listed as they are, and exactly one alternative has to accept. -/
def strict : Reading := ⟨Json.equals, fun verdicts => verdicts.count true == 1⟩

end Reading

/-- Whether the value of the `type` keyword allows a value. -/
def TypeSpec.allows : TypeSpec → Json → Bool
  | single type, value => type.hasValue value
  | several types, value => types.any (·.hasValue value)
  | other _, _ => false

/-- Whether the facets of a schema hold of a value. -/
def Facets.admits (reading : Reading) (facets : Facets) (value : Json) : Bool :=
  facets.type.all (·.allows value)
    && facets.choices.all (·.any (reading.isListed · value))
    && match value with
      | .object members => (facets.required.getD []).all (Members.contains members)
      | .array elements =>
        facets.minItems.all (fun limit =>
            decide (limit.units ≤ (elements.length : Int) * Binary64.one))
          && facets.maxItems.all fun limit =>
            decide ((elements.length : Int) * Binary64.one ≤ limit.units)
      | _ => true

/-- Whether the parts of a schema hold of a value, given what each of them holds of. -/
def Parts.admits (reading : Reading) (parts : Parts (Json → Bool)) (value : Json) : Bool :=
  parts.oneOf.all (fun alternatives => reading.chooses (alternatives.map (· value)))
    && match value with
      | .object members =>
        (parts.properties.getD []).all fun (name, admits) => (members.lookup name).all admits
      | .array elements =>
        match parts.items with
        | some (.single admits) => elements.all admits
        | _ => true
      | _ => true

/-- Whether a schema holds of a value in a reading. -/
def Schema.holds (reading : Reading) : Schema → Json → Bool :=
  fold (fun accepts _ => accepts)
    fun facets parts value => facets.admits reading value && parts.admits reading value

namespace Schema

variable {reading : Reading} {facets : Facets} {parts : Parts Schema} {value : Json}

theorem holds_object : (object facets parts).holds reading value = true ↔
    facets.admits reading value = true
      ∧ (parts.map (holds reading)).admits reading value = true := by
  unfold holds
  rw [fold_object, Bool.and_eq_true]

/-- The facets of a schema hold of a value if each keyword does that has to do with the value. -/
theorem admits_facets : facets.admits reading value = true ↔
    facets.type.all (·.allows value) = true
      ∧ facets.choices.all (·.any (reading.isListed · value)) = true
      ∧ (∀ members : Members Json, value = .object members →
        (facets.required.getD []).all (Members.contains members) = true)
      ∧ ∀ elements, value = .array elements →
        facets.minItems.all
            (fun limit => decide (limit.units ≤ (elements.length : Int) * Binary64.one)) = true
          ∧ facets.maxItems.all (fun limit =>
            decide ((elements.length : Int) * Binary64.one ≤ limit.units)) = true := by
  unfold Facets.admits
  rw [Bool.and_eq_true, Bool.and_eq_true, and_assoc]
  refine and_congr_right fun _ => and_congr_right fun _ => ?_
  cases value with
  | object members =>
    constructor
    · intro h
      refine ⟨fun _ heq => ?_, nofun⟩
      cases heq
      exact h
    · intro h
      exact h.1 members rfl
  | array elements =>
    rw [Bool.and_eq_true]
    constructor
    · intro h
      refine ⟨nofun, fun _ heq => ?_⟩
      cases heq
      exact h
    · intro h
      exact h.2 elements rfl
  | _ => exact iff_of_true rfl ⟨nofun, nofun⟩

/-- The parts of a schema hold of a value if its choice does, and its schemas for properties and
elements hold of those of the value. -/
theorem admits_parts : (parts.map (holds reading)).admits reading value = true ↔
    (∀ alternatives, parts.oneOf = some alternatives →
        reading.chooses (alternatives.map (holds reading · value)) = true)
      ∧ (∀ members : Members Json, value = .object members →
        ∀ entry ∈ parts.properties.getD [], ∀ x, members.lookup entry.1 = some x →
          entry.2.holds reading x = true)
      ∧ (∀ elements schema, value = .array elements → parts.items = some (.single schema) →
        ∀ element ∈ elements, schema.holds reading element = true) := by
  unfold Parts.admits
  rw [Bool.and_eq_true]
  refine and_congr ?_ ?_
  · cases h : parts.oneOf <;> simp [Parts.map, h, Function.comp_def]
  · cases value with
    | object members =>
      have hproperties : ((parts.map (holds reading)).properties.getD [])
          = Parts.mapMembers (holds reading) (parts.properties.getD []) := by
        cases h : parts.properties <;> simp [Parts.map, h, Parts.mapMembers]
      rw [hproperties, List.all_eq_true, Parts.mapMembers, List.forall_mem_map]
      simp only [Option.all_eq_true]
      constructor
      · intro h
        refine ⟨?_, fun _ _ hvalue => (by cases hvalue)⟩
        rintro _ ⟨⟩
        exact h
      · intro h
        exact h.1 members rfl
    | array elements =>
      constructor
      · intro h
        refine ⟨fun _ hvalue => (by cases hvalue), ?_⟩
        rintro _ schema ⟨⟩ hitems
        simpa only [Parts.map, hitems, Option.map_some, Items.map, List.all_eq_true] using h
      · intro h
        rcases hitems : parts.items with _ | (schemas | schema)
        · simp [Parts.map, hitems]
        · simp [Parts.map, hitems, Items.map]
        · simpa only [Parts.map, hitems, Option.map_some, Items.map, List.all_eq_true]
            using h.2 elements schema rfl hitems
    | _ => simp

/-- A choice holds of a value if it chooses by the verdicts of its alternatives. -/
theorem holds_oneOf {alternatives : List Schema} :
    (oneOf alternatives).holds reading value = true ↔
      reading.chooses (alternatives.map (holds reading · value)) = true := by
  unfold oneOf
  rw [holds_object, admits_parts]
  constructor
  · intro h
    exact h.2.1 alternatives rfl
  · intro h
    refine ⟨?_, ?_, ?_, ?_⟩
    · cases value <;> rfl
    · rintro _ ⟨⟩
      exact h
    · rintro _ _ _ ⟨⟩
    · rintro _ _ _ ⟨⟩

/-- A schema with a type and nothing else that counts holds of the values of that type. -/
theorem holds_simple {type : TypeName} {description format : Option String} :
    (object { description := description, type := some (.single type), format := format }
      {}).holds reading value = true ↔ type.hasValue value = true := by
  rw [holds_object, admits_facets, admits_parts]
  constructor
  · intro h
    exact h.1.1
  · intro h
    refine ⟨⟨h, rfl, ?_, ?_⟩, ?_, ?_, ?_⟩
    · intro _ _
      rfl
    · intro _ _
      exact ⟨rfl, rfl⟩
    · rintro _ ⟨⟩
    · rintro _ _ _ ⟨⟩
    · rintro _ _ _ ⟨⟩

/-! ### The lax reading -/

theorem allows_of_same {a b : TypeSpec} (hab : a.same b = true) (h : b.allows value = true) :
    a.allows value = true := by
  cases a with
  | single type =>
    rw [TypeSpec.same_single hab] at h
    exact h
  | several types =>
    cases b with
    | several others =>
      have heq : types = others := beq_iff_eq.mp hab
      rw [heq]
      exact h
    | _ => cases hab
  | other written =>
    cases b with
    | other _ => cases h
    | _ => cases hab

theorem all_of_relateOption {α : Type} {related : α → α → Bool} {p : α → Bool} {a b : Option α}
    (hab : relateOption related a b = true)
    (transfer : ∀ x y, related x y = true → p y = true → p x = true) (h : b.all p = true) :
    a.all p = true := by
  cases a with
  | none => rfl
  | some x =>
    obtain ⟨y, rfl, hxy⟩ := relateOption_some hab
    exact transfer x y hxy h

theorem admits_of_same {a b : Facets} (hab : a.same b = true)
    (h : b.admits .lax value = true) : a.admits .lax value = true := by
  obtain ⟨htype, hchoices, hrequired, hcounts⟩ := admits_facets.mp h
  refine admits_facets.mpr ⟨?_, ?_, ?_, ?_⟩
  · exact all_of_relateOption (Facets.same_type hab) (fun _ _ => allows_of_same) htype
  · refine all_of_relateOption (Facets.same_choices hab) ?_ hchoices
    -- what a listed value stands for, the equal one at its place stands for as well
    intro xs ys hxs hany
    have hforall := Json.sameElementsUpTo_iff.mp hxs
    clear hxs hchoices
    induction hforall with
    | nil => exact hany
    | cons hhead _ ih =>
      simp only [List.any_cons, Bool.or_eq_true] at hany ⊢
      rcases hany with hlisted | hrest
      · exact .inl (Refinement.sameValue_of_same hhead hlisted)
      · exact .inr (ih hrest)
  · rintro members rfl
    rw [Facets.same_required hab]
    exact hrequired members rfl
  · rintro elements rfl
    obtain ⟨hmin, hmax⟩ := hcounts elements rfl
    constructor
    · refine all_of_relateOption (Facets.same_number hab .minItems) ?_ hmin
      intro x y hxy
      rw [Number.units_eq_of_same hxy]
      exact id
    · refine all_of_relateOption (Facets.same_number hab .maxItems) ?_ hmax
      intro x y hxy
      rw [Number.units_eq_of_same hxy]
      exact id

theorem any_of_forall₂ {schemas others : List Schema}
    (hsame : List.Forall₂ (fun schema other => schema.same other = true) schemas others)
    (transfer : ∀ schema ∈ schemas, ∀ other, schema.same other = true →
      other.holds reading value = true → schema.holds reading value = true)
    (h : ∃ other ∈ others, other.holds reading value = true) :
    ∃ schema ∈ schemas, schema.holds reading value = true := by
  induction hsame with
  | nil => exact h
  | @cons schema other _ _ hhead _ ih =>
    rw [List.forall_mem_cons] at transfer
    obtain ⟨witness, hmem, hholds⟩ := h
    rcases List.mem_cons.mp hmem with rfl | hrest
    · exact ⟨schema, List.mem_cons_self, transfer.1 _ hhead hholds⟩
    · obtain ⟨found, hfound, hholds'⟩ := ih transfer.2 ⟨witness, hrest, hholds⟩
      exact ⟨found, List.mem_cons_of_mem _ hfound, hholds'⟩

theorem chooses_lax {alternatives : List Schema} :
    Reading.lax.chooses (alternatives.map (holds .lax · value)) = true ↔
      ∃ alternative ∈ alternatives, alternative.holds .lax value = true := by
  show (alternatives.map (holds .lax · value)).any id = true ↔ _
  rw [List.any_map, List.any_eq_true]
  rfl

/-- A schema holds of what an equal one holds of. -/
theorem holds_of_same {schema other : Schema} (hsame : schema.same other = true)
    (h : other.holds .lax value = true) : schema.holds .lax value = true := by
  induction schema using Schema.induction generalizing other value with
  | boolean accepts =>
    cases other with
    | boolean otherAccepts =>
      have heq : accepts = otherAccepts := beq_iff_eq.mp hsame
      rw [heq]
      exact h
    | object _ _ => cases hsame
  | object facets parts ih =>
    obtain ⟨otherFacets, otherParts, rfl, hfacets, hparts⟩ := same_object hsame
    rw [holds_object] at h ⊢
    refine ⟨admits_of_same hfacets h.1, ?_⟩
    -- each part of the schema has an equal one in the other, and the hypothesis is about the parts
    obtain ⟨honeOf, hproperties, hitems⟩ := admits_parts.mp h.2
    refine admits_parts.mpr ⟨?_, ?_, ?_⟩
    · intro alternatives halternatives
      obtain ⟨others, hothers, hrelate⟩ := Parts.relate_oneOf hparts halternatives
      refine chooses_lax.mpr (any_of_forall₂ hrelate ?_ (chooses_lax.mp (honeOf others hothers)))
      intro alternative hmem other hsame' hother
      exact ih alternative (Parts.mem_toList_of_oneOf halternatives hmem) hsame' hother
    · rintro members rfl entry hentry x hx
      cases hown : parts.properties with
      | none =>
        rw [hown] at hentry
        cases hentry
      | some entries =>
        rw [hown] at hentry
        obtain ⟨others, hothers, hrelate⟩ := Parts.relate_properties hparts hown
        obtain ⟨other, hlookup, hsame'⟩ := hrelate entry hentry
        have hother : other.holds .lax x = true := by
          refine hproperties members rfl (entry.1, other) ?_ x hx
          rw [hothers]
          exact Members.mem_of_lookup hlookup
        exact ih entry.2 (Parts.mem_toList_of_properties hown hentry) hsame' hother
    · rintro elements schema rfl hschema element helement
      obtain ⟨other, hother, hsame'⟩ := Parts.relate_items hparts hschema
      exact ih schema (Parts.mem_toList_of_items hschema) hsame'
        (hitems elements other rfl hother element helement)

end Schema

end JsonShape
