import JsonShape.Proofs.Acceptance
import JsonShape.Proofs.Unification

/-!
# The form of inferred schemas

Every inferred schema has the type of its value and no other keywords than a few. The schema for the
elements of an array is taken in one of three ways: from all of them if they are objects, from the
first if they are all of another type, and otherwise it is a choice.

Main statement: `Inferrer.emitted_infer`, whatever the settings are, the schema of a value without
repeated names has only the keywords that a reading reads.
-/

namespace JsonShape

open Members

/-- No object in the value repeats a name. -/
inductive Json.UniqueNames : Json → Prop
  | null : UniqueNames .null
  | bool {value} : UniqueNames (.bool value)
  | number {value} : UniqueNames (.number value)
  | string {value} : UniqueNames (.string value)
  | array {elements : List Json} : (∀ element ∈ elements, UniqueNames element) →
      UniqueNames (.array elements)
  | object {members : Members Json} : (names members).Nodup →
      (∀ member ∈ members, UniqueNames member.2) → UniqueNames (.object members)

namespace Json.UniqueNames

theorem of_mem_array {elements : List Json} (h : (Json.array elements).UniqueNames)
    {element : Json} (helement : element ∈ elements) : element.UniqueNames := by
  cases h with
  | array hall => exact hall element helement

theorem of_mem_object {members : Members Json} (h : (Json.object members).UniqueNames)
    {member : String × Json} (hmember : member ∈ members) : member.2.UniqueNames := by
  cases h with
  | object _ hall => exact hall member hmember

theorem nodup {members : Members Json} (h : (Json.object members).UniqueNames) :
    (names members).Nodup := by
  cases h with
  | object nodup _ => exact nodup

end Json.UniqueNames

/-- The first value is the second, or stands at some depth in it. -/
inductive Json.Within : Json → Json → Prop
  | self {value} : Within value value
  | element {inner element elements} : element ∈ elements → Within inner element →
      Within inner (.array elements)
  | member {inner} {member : String × Json} {members : Members Json} : member ∈ members →
      Within inner member.2 → Within inner (.object members)

theorem Json.Within.uniqueNames {inner outer : Json} (within : inner.Within outer)
    (unique : outer.UniqueNames) : inner.UniqueNames := by
  induction within with
  | self => exact unique
  | element hmem _ ih => exact ih (unique.of_mem_array hmem)
  | member hmem _ ih => exact ih (unique.of_mem_object hmem)

theorem Json.Within.trans {inner middle outer : Json} (hinner : inner.Within middle)
    (hmiddle : middle.Within outer) : inner.Within outer := by
  induction hmiddle with
  | self => exact hinner
  | element hmem _ ih => exact .element hmem ih
  | member hmem _ ih => exact .member hmem ih

/-! ### Schemas with the keywords of inferred ones -/

/-- Facets with nothing but what inference gives. -/
theorem Facets.emitted_mk (type : Option TypeName) (description format : Option String)
    (required : Option (List String)) (minItems maxItems : Option Nat)
    (choices : Option (List Json))
    (hrequired : ∀ names, required = some names → names.Nodup)
    (hmin : ∀ count, minItems = some count → count ≤ 3)
    (hmax : ∀ count, maxItems = some count → count ≤ 3)
    (hchoices : ∀ values, choices = some values →
      ∀ value ∈ values, (value.isString || value.isNumber) = true) :
    Facets.Emitted
      { description := description
        type := type.map .single
        required := required
        minItems := minItems.map fun count : Nat => .ofInt count
        maxItems := maxItems.map fun count : Nat => .ofInt count
        format := format
        choices := choices } where
  text := by
    intro keyword value h
    cases keyword with
    | description => exact .inl rfl
    | format => exact .inr rfl
    | _ => cases h
  number := by
    intro keyword value h
    cases keyword with
    | minItems =>
      obtain ⟨count, hcount, heq⟩ := Option.map_eq_some_iff.mp h
      exact ⟨.inl rfl, count, hmin count hcount, heq.symm⟩
    | maxItems =>
      obtain ⟨count, hcount, heq⟩ := Option.map_eq_some_iff.mp h
      exact ⟨.inr rfl, count, hmax count hcount, heq.symm⟩
    | _ => cases h
  type := by
    intro spec h
    obtain ⟨found, _, heq⟩ := Option.map_eq_some_iff.mp h
    exact ⟨found, heq.symm⟩
  required := hrequired
  uniqueItems := rfl
  choices := hchoices
  extra := rfl

/-- Parts with nothing but what inference gives. -/
theorem Parts.emitted_mk {α : Type} (properties : Option (Members α)) (oneOf : Option (List α))
    (items : Option α)
    (hproperties : ∀ schemas, properties = some schemas → (names schemas).Nodup)
    (honeOf : ∀ schemas, oneOf = some schemas → schemas ≠ []) :
    Parts.Emitted
      ({ properties := properties
         oneOf := oneOf
         items := items.map .single } : Parts α) where
  map := by
    intro keyword schemas h
    cases keyword with
    | properties => exact ⟨rfl, hproperties schemas h⟩
    | _ => cases h
  list := by
    intro keyword schemas h
    cases keyword with
    | oneOf => exact ⟨rfl, honeOf schemas h⟩
    | _ => cases h
  single := by
    intro keyword
    cases keyword <;> rfl
  items := by
    intro found h
    obtain ⟨schema, _, heq⟩ := Option.map_eq_some_iff.mp h
    exact ⟨schema, heq.symm⟩

theorem Parts.emitted_nil {α : Type} : Parts.Emitted ({} : Parts α) :=
  emitted_mk none none none (by rintro _ ⟨⟩) (by rintro _ ⟨⟩)

namespace Schema

variable {schema : Schema}

theorem emitted_of_facets {facets : Facets} (hfacets : facets.Emitted) :
    (object facets {}).Emitted :=
  .object hfacets Parts.emitted_nil fun _ h => (by cases h)

theorem emitted_simple (type : TypeName) (description format : Option String) :
    (object { description := description, type := some (.single type), format := format }
      {}).Emitted :=
  emitted_of_facets (Facets.emitted_mk (some type) description format none none none none
    (by rintro _ ⟨⟩) (by rintro _ ⟨⟩) (by rintro _ ⟨⟩) (by rintro _ ⟨⟩))

theorem emitted_empty : empty.Emitted :=
  emitted_of_facets (Facets.emitted_mk none none none none none none none
    (by rintro _ ⟨⟩) (by rintro _ ⟨⟩) (by rintro _ ⟨⟩) (by rintro _ ⟨⟩))

theorem emitted_array {minItems maxItems : Option Nat}
    (hmin : ∀ count, minItems = some count → count ≤ 3)
    (hmax : ∀ count, maxItems = some count → count ≤ 3) (hschema : schema.Emitted) :
    (object
      { type := some (.single .array)
        minItems := minItems.map fun count : Nat => .ofInt count
        maxItems := maxItems.map fun count : Nat => .ofInt count }
      { items := some (.single schema) }).Emitted := by
  refine .object (Facets.emitted_mk (some .array) none none none minItems maxItems none
    (by rintro _ ⟨⟩) hmin hmax (by rintro _ ⟨⟩)) ?_ ?_
  · exact Parts.emitted_mk none none (some schema) (by rintro _ ⟨⟩) (by rintro _ ⟨⟩)
  · intro part hpart
    rw [List.mem_singleton.mp hpart]
    exact hschema

theorem emitted_oneOf {alternatives : List Schema} (nonempty : alternatives ≠ [])
    (h : ∀ part ∈ alternatives, part.Emitted) : (oneOf alternatives).Emitted := by
  refine .object (Facets.emitted_mk none none none none none none none
    (by rintro _ ⟨⟩) (by rintro _ ⟨⟩) (by rintro _ ⟨⟩) (by rintro _ ⟨⟩)) ?_ ?_
  · refine Parts.emitted_mk none (some alternatives) none (by rintro _ ⟨⟩) ?_
    rintro _ ⟨⟩
    exact nonempty
  · intro part hpart
    exact h part (by simpa [Parts.toList] using hpart)

theorem emitted_choice {alternatives : List Schema} (nonempty : alternatives ≠ [])
    (h : ∀ part ∈ alternatives, part.Emitted) : (choice alternatives).Emitted := by
  unfold choice
  split
  · next part => exact h part (List.mem_singleton_self _)
  · exact emitted_oneOf nonempty h

end Schema

namespace Inferrer

open Schema Refinement

theorem nodup_of_sortedNames {required names : List String} (nodup : required.Nodup)
    (h : sortedNames required = some names) : names.Nodup := by
  rw [← (sortedNames_eq_some_iff.mp h).2]
  exact (List.mergeSort_perm _ _).nodup_iff.mpr nodup

theorem emitted_objectSchema {properties : Members Schema} {required : List String}
    (nodup : (names properties).Nodup) (hrequired : required.Nodup)
    (h : ∀ entry ∈ properties, entry.2.Emitted) : (objectSchema properties required).Emitted := by
  refine .object (Facets.emitted_mk (some .object) none none (sortedNames required) none none none
    (fun names hnames => nodup_of_sortedNames hrequired hnames) (by rintro _ ⟨⟩) (by rintro _ ⟨⟩)
    (by rintro _ ⟨⟩)) ?_ ?_
  · refine Parts.emitted_mk (some properties) none none ?_ (by rintro _ ⟨⟩)
    rintro _ ⟨⟩
    exact nodup
  · intro part hpart
    have hvalue : part ∈ properties.map Prod.snd := by simpa [Parts.toList] using hpart
    obtain ⟨entry, hentry, rfl⟩ := List.mem_map.mp hvalue
    exact h entry hentry

theorem emitted_of_refined {property : String} {samples : List Json} {schema refined : Schema}
    (hrefined : Refined property samples schema refined) (hschema : schema.Emitted) :
    refined.Emitted := by
  cases hrefined with
  | kept => exact hschema
  | @listed type values limit htype hvalues =>
    refine emitted_of_facets (Facets.emitted_mk (some type) none none none none none
      (some (values.mergeSort valueLe)) (by rintro _ ⟨⟩) (by rintro _ ⟨⟩) (by rintro _ ⟨⟩) ?_)
    rintro _ ⟨⟩ value hvalue
    have hmem := (distinct_some hvalues).2 value (List.mem_mergeSort.mp hvalue)
    exact (List.mem_filter.mp hmem).2
  | @tuple length hlength =>
    have hcount : ∀ count, some length = some count → count ≤ 3 := by
      rintro _ ⟨⟩
      exact commonLength_le hlength
    exact emitted_array hcount hcount (emitted_simple .number none none)
  | recent => exact emitted_simple .integer _ _

theorem emitted_of_mergeable {schema : Schema}
    (h : schema.Mergeable fun part => part.Plain ∧ part.Emitted) : schema.Emitted := by
  rcases h with h | ⟨alternatives, rfl, hne, hall⟩
  · exact h.2
  · exact emitted_oneOf hne fun part hpart => (hall part hpart).2

theorem unmixed_emitted : Unmixed fun schema => schema.Plain ∧ schema.Emitted where
  plain := And.left
  number := ⟨rfl, emitted_simple .number none none⟩

theorem coverable_true : Coverable fun _ _ => True := ⟨fun _ _ => trivial, fun _ _ => trivial⟩

variable {config : InferenceConfig} {clockMs : Int} {inferrer : Inferrer}

/-! ### Inferred schemas -/

theorem emitted_unify (hconfig : ofConfig config clockMs = .ok inferrer)
    {objects : List (Members Json)}
    (h : ∀ name value, Noted objects name value → (inferrer.infer value).Emitted) :
    (inferrer.unify ((objects.map Json.object).map inferrer.infer)
      (objects.map Json.object)).Emitted := by
  have hgathers := gathers_mergedProperties unmixed_emitted coverable_true
    fun name value hnoted => ⟨plain_infer inferrer value, h name value hnoted⟩
  rw [unify_objects]
  refine emitted_objectSchema ?_ (hgathers.nodup.filter _) ?_
  · have hnames : names ((inferrer.mergedProperties objects).map fun entry =>
        (entry.1, inferrer.refine (objects.map Json.object) entry.1 entry.2))
        = names (inferrer.mergedProperties objects) := by
      simp only [names, List.map_map, Function.comp_def]
    rw [hnames]
    exact hgathers.nodup
  · intro entry hentry
    obtain ⟨⟨name, merged⟩, hmerged, rfl⟩ := List.mem_map.mp hentry
    have hlookup := lookup_of_mem hgathers.nodup hmerged
    exact emitted_of_refined (refined_refine hconfig _ name merged)
      (emitted_of_mergeable (hgathers.mergeable name merged hlookup))

theorem emitted_of_mem {members : Members Json}
    (h : (inferrer.infer (.object members)).Emitted) {name : String} {value : Json}
    (hmem : (name, value) ∈ members) : (inferrer.infer value).Emitted := by
  rw [infer_object] at h
  cases h with
  | object _ _ hbelow =>
    have hentry : (name, inferrer.infer value) ∈ Parts.mapMembers inferrer.infer members :=
      mem_mapMembers.mpr ⟨value, hmem, rfl⟩
    exact hbelow _ (Parts.mem_toList_of_properties rfl hentry)

/-- Inference gives only the keywords that a reading reads. -/
theorem emitted_infer (hconfig : ofConfig config clockMs = .ok inferrer) {value : Json}
    (unique : value.UniqueNames) : (inferrer.infer value).Emitted := by
  induction unique with
  | null => exact emitted_simple .null none none
  | bool => exact emitted_simple .boolean none none
  | @number number => exact emitted_simple number.kind none none
  | string => exact emitted_simple .string none _
  | @array elements helements ih =>
    have hnone : ∀ count : Nat, none = some count → count ≤ 3 := by rintro _ ⟨⟩
    have hzero : ∀ count : Nat, some 0 = some count → count ≤ 3 := by
      rintro _ ⟨⟩
      exact Nat.zero_le 3
    cases elements with
    | nil => exact emitted_array hnone hnone emitted_empty
    | cons first rest =>
      rw [infer_cons]
      refine emitted_array hzero hnone ?_
      rcases elements_cases first rest with ⟨objects, hobjects⟩ | ⟨hsame, hobject⟩ | hmixed
      · rw [sharedSchema_objects inferrer hobjects]
        refine emitted_unify hconfig ?_
        rintro name value ⟨members, hmembers, hmem⟩
        -- the hypothesis is about whole objects; their properties are below them
        have hobject := ih (.object members) (hobjects ▸ List.mem_map_of_mem hmembers)
        exact emitted_of_mem hobject hmem
      · rw [sharedSchema_same inferrer hsame hobject]
        exact ih first List.mem_cons_self
      · rw [sharedSchema_mixed inferrer hmixed]
        refine emitted_choice (dedup_ne_nil (List.cons_ne_nil _ _)) fun part hpart => ?_
        obtain ⟨element, helement, rfl⟩ := List.mem_map.mp (mem_of_mem_dedup hpart)
        exact ih element helement
  | @object members nodup hmembers ih =>
    rw [infer_object]
    refine emitted_objectSchema (by rwa [names_mapMembers]) ?_ ?_
    · -- the members that are not null are some of all members
      exact nodup.sublist (List.filter_sublist.map _)
    · intro entry hentry
      obtain ⟨value, hvalue, heq⟩ := mem_mapMembers.mp hentry
      rw [← heq]
      exact ih (entry.1, value) hvalue

end Inferrer

end JsonShape
