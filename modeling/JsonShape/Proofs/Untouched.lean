import JsonShape.Proofs.PropertyEdits

/-!
# Names that a run of edits leaves alone

An edit of properties is given one name or two. Whatever else has been edited before, the properties
under all other names keep their schemas, their places among each other and whether they are
required.

Main statement: `Edit.run_untouched` says what a run of edits leaves alone.
-/

namespace JsonShape

open Members

namespace Edit

/-- None of the edits is given the name. -/
def Untouched (edits : List Edit) (name : String) : Prop := ∀ edit ∈ edits, name ∉ edit.mentions

instance (edits : List Edit) (name : String) : Decidable (Untouched edits name) :=
  inferInstanceAs (Decidable (∀ edit ∈ edits, name ∉ edit.mentions))

variable {edit : Edit} {edits : List Edit} {schema : Schema} {p : String → Bool}

theorem run_cons (edit : Edit) (edits : List Edit) (schema : Schema) :
    run (edit :: edits) schema = run edits (edit.apply schema) := rfl

/-! ### One edit -/

theorem nodup_properties_apply (h : edit.OfProperties)
    (nodup : ∀ kind, (names (schema.properties kind)).Nodup) (kind : PropertyKind) :
    (names ((edit.apply schema).properties kind)).Nodup := by
  rw [properties_apply h]
  exact MapChange.nodup_apply _ (nodup kind)

theorem restrict_properties_apply (h : edit.OfProperties)
    (nodup : ∀ kind, (names (schema.properties kind)).Nodup)
    (apart : ∀ name ∈ edit.mentions, p name = false) (kind : PropertyKind) :
    restrict ((edit.apply schema).properties kind) p = restrict (schema.properties kind) p := by
  rw [properties_apply h]
  refine MapChange.restrict_apply_of_not _ (nodup kind) fun name hname => ?_
  exact apart name (mentions_mapChange edit schema kind hname)

theorem isRequired_apply (h : edit.OfProperties) {name : String} (apart : name ∉ edit.mentions) :
    (edit.apply schema).isRequired name = schema.isRequired name := by
  rw [Bool.eq_iff_iff, Schema.isRequired_iff, Schema.isRequired_iff, requiredNames_apply h]
  exact NamesChange.mem_apply_of_notMem _ fun hname =>
    apart (mentions_requiredChange edit schema hname)

/-! ### Runs -/

theorem nodup_properties_run (hedits : ∀ edit ∈ edits, edit.OfProperties)
    (nodup : ∀ kind, (names (schema.properties kind)).Nodup) (kind : PropertyKind) :
    (names ((run edits schema).properties kind)).Nodup := by
  induction edits generalizing schema with
  | nil => exact nodup kind
  | cons edit rest ih =>
    rw [List.forall_mem_cons] at hedits
    exact ih hedits.2 (nodup_properties_apply hedits.1 nodup)

theorem restrict_properties_run (hedits : ∀ edit ∈ edits, edit.OfProperties)
    (nodup : ∀ kind, (names (schema.properties kind)).Nodup)
    (apart : ∀ name, p name = true → Untouched edits name) (kind : PropertyKind) :
    restrict ((run edits schema).properties kind) p = restrict (schema.properties kind) p := by
  induction edits generalizing schema with
  | nil => rfl
  | cons edit rest ih =>
    rw [List.forall_mem_cons] at hedits
    -- none of the names that are looked at is one of the first edit
    have hedit : ∀ name ∈ edit.mentions, p name = false := by
      intro name hname
      rw [← Bool.not_eq_true]
      exact fun hp => apart name hp edit List.mem_cons_self hname
    rw [run_cons, ih hedits.2 (nodup_properties_apply hedits.1 nodup)
      fun name hp other hother => apart name hp other (List.mem_cons_of_mem _ hother)]
    exact restrict_properties_apply hedits.1 nodup hedit kind

theorem isRequired_run (hedits : ∀ edit ∈ edits, edit.OfProperties) {name : String}
    (apart : Untouched edits name) :
    (run edits schema).isRequired name = schema.isRequired name := by
  induction edits generalizing schema with
  | nil => rfl
  | cons edit rest ih =>
    rw [Untouched, List.forall_mem_cons] at apart
    rw [List.forall_mem_cons] at hedits
    exact (ih hedits.2 apart.2).trans (isRequired_apply hedits.1 apart.1)

theorem otherKeywords_run (hedits : ∀ edit ∈ edits, edit.OfProperties) :
    (run edits schema).otherKeywords = schema.otherKeywords := by
  induction edits generalizing schema with
  | nil => rfl
  | cons edit rest ih =>
    rw [List.forall_mem_cons] at hedits
    exact (ih hedits.2).trans (otherKeywords_apply hedits.1 schema)

theorem run_boolean (edits : List Edit) (accepts : Bool) :
    run edits (.boolean accepts) = .boolean accepts := by
  induction edits with
  | nil => rfl
  | cons edit rest ih => rw [run_cons, apply_boolean, ih]

/-! ### What is listed -/

theorem filter_propertyList (schema : Schema) (kind : PropertyKind) (p : String → Bool) :
    (schema.propertyList kind).filter (fun property => p property.name)
      = (restrict (schema.properties kind) p).map
          fun entry => ⟨entry.1, entry.2, schema.isRequired entry.1⟩ :=
  List.filter_map

/-- A run of edits touches only the names that it is given. Every other name stands for the same
property in each of the maps, or for none, and is required if it was. These properties are listed in
the order in which they were, and no name is listed twice. No other keyword changes, and a boolean
schema does not change at all. -/
theorem run_untouched (hedits : ∀ edit ∈ edits, edit.OfProperties)
    (nodup : ∀ kind, (names (schema.properties kind)).Nodup) :
    (∀ name, Untouched edits name →
        (∀ kind, ((run edits schema).properties kind).lookup name
          = (schema.properties kind).lookup name)
        ∧ (run edits schema).isRequired name = schema.isRequired name)
      ∧ (∀ kind, ((run edits schema).propertyList kind).filter (Untouched edits ·.name)
          = (schema.propertyList kind).filter (Untouched edits ·.name))
      ∧ (∀ kind, (((run edits schema).propertyList kind).map Property.name).Nodup)
      ∧ (run edits schema).otherKeywords = schema.otherKeywords
      ∧ ∀ accepts, schema = .boolean accepts → run edits schema = .boolean accepts := by
  -- the entries under untouched names are kept as one list; lookups and listing follow from it
  let p := fun name => decide (Untouched edits name)
  have hrestrict : ∀ kind, restrict ((run edits schema).properties kind) p
      = restrict (schema.properties kind) p :=
    restrict_properties_run hedits nodup fun name => of_decide_eq_true
  refine ⟨fun name apart => ⟨fun kind => ?_, isRequired_run hedits apart⟩, fun kind => ?_,
    fun kind => ?_, otherKeywords_run hedits, ?_⟩
  · exact lookup_eq_of_restrict (hrestrict kind) (decide_eq_true apart)
  · have hfilter := fun schema => filter_propertyList schema kind p
    rw [hfilter, hfilter, hrestrict kind]
    refine List.map_congr_left fun entry hentry => ?_
    have hentry' : p entry.1 = true := (List.mem_filter.mp hentry).2
    rw [isRequired_run hedits (of_decide_eq_true hentry')]
  · have hnames : ((run edits schema).propertyList kind).map Property.name
        = names ((run edits schema).properties kind) := List.map_map ..
    rw [hnames]
    exact nodup_properties_run hedits nodup kind
  · rintro accepts rfl
    exact run_boolean edits accepts

/-- Three properties, of which the first and the last are required, and a pattern. -/
def sampleSchema : Schema :=
  .object { Facets.typed .object with required := some ["a", "c"] }
    { properties := some [("a", .boolean false), ("b", .typed .string), ("c", .typed .number)]
      patternProperties := some [("^x", .empty)] }

theorem sampleSchema_nodup (kind : PropertyKind) :
    (names (sampleSchema.properties kind)).Nodup := by
  cases kind <;> decide

/-- A property is renamed to one that is there, the pattern becomes a property and back, and one is
taken out that is not there: the third property is untouched. -/
theorem run_untouched_renamed :
    (∀ edit ∈ [rename .named "a" "b", toggle .pattern "^x", remove .named "d"], edit.OfProperties)
      ∧ (∀ kind, (names (sampleSchema.properties kind)).Nodup)
      ∧ ((run [rename .named "a" "b", toggle .pattern "^x", remove .named "d"]
            sampleSchema).properties .named).lookup "c" = some (.typed .number)
      ∧ (run [rename .named "a" "b", toggle .pattern "^x", remove .named "d"]
            sampleSchema).isRequired "c" = true := by
  have hedits : ∀ edit ∈ [rename .named "a" "b", toggle .pattern "^x", remove .named "d"],
      edit.OfProperties := by simp [OfProperties]
  obtain ⟨hlookup, hrequired⟩ := (run_untouched hedits sampleSchema_nodup).1 "c" (by decide)
  exact ⟨hedits, sampleSchema_nodup, hlookup .named, hrequired⟩

end Edit

end JsonShape
