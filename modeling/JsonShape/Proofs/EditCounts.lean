import JsonShape.Proofs.Untouched
import JsonShape.Proofs.Walk

/-!
# What an edit does to the error count

The errors of an object schema are those of its properties and patterns and those of the rest, which
an edit of properties leaves alone. A change of a map takes some properties out and brings others;
all that stay count as before, under whatever names.

Main statement: `Schema.errorCount_edited`, an edit changes the error count by the errors of the
properties that it brings and takes out.
-/

namespace JsonShape

open Members

/-! ### Properties that a change takes out -/

namespace MapChange

/-- The properties that a change takes out or replaces. -/
def displaced (change : MapChange) (properties : Members Schema) : List Schema :=
  match change with
  | put name _ => (properties.lookup name).toList
  | take name => (properties.lookup name).toList
  | _ => []

/-- No two properties become one. -/
def Separates (change : MapChange) (properties : Members Schema) : Prop :=
  match change with
  | rename _ new => new ∉ names properties
  | _ => True

/-- A change takes some properties out and brings others, and keeps the rest. -/
theorem values_apply_perm {change : MapChange} {properties : Members Schema}
    (nodup : (names properties).Nodup) (separates : change.Separates properties) :
    List.Perm (change.displaced properties ++ values (change.apply properties))
      (change.given ++ values properties) := by
  cases change with
  | keep => exact List.Perm.refl _
  | put name property => exact values_insert_perm nodup name property
  | take name => exact values_erase_perm nodup name
  | rename old new =>
    show List.Perm (values _) (values properties)
    rw [apply_rename nodup separates, values, List.map_map]
    exact List.Perm.refl _

end MapChange

/-! ### The error count in parts -/

namespace Schema

/-- The sub-schemas that are checked with a schema, under the keys of their places. -/
def places : Schema → Members Schema
  | boolean _ => []
  | object facets parts => parts.walked facets.primaryType?

/-- The number of errors of a schema and of all sub-schemas below it. -/
def errorCount (messages : Messages) (schema : Schema) : Nat :=
  (schema.issueTree messages).errorCount

/-- The number of errors of some schemas together. -/
def totalErrors (messages : Messages) (schemas : List Schema) : Nat :=
  (schemas.map (errorCount messages)).sum

/-- The number of errors of the property under a name, if there is one. -/
def errorsAt (messages : Messages) (schema : Schema) (kind : PropertyKind) (name : String) : Nat :=
  totalErrors messages ((schema.properties kind).lookup name).toList

variable {schema : Schema} (messages : Messages)

theorem keysDistinct_iff : schema.KeysDistinct ↔ (names schema.places).Nodup := by
  cases schema with
  | boolean accepts => simp [KeysDistinct, places]
  | object facets parts => exact Iff.rfl

instance (schema : Schema) : Decidable schema.KeysDistinct :=
  decidable_of_iff _ keysDistinct_iff.symm

theorem primaryType?_otherKeywords (schema : Schema) :
    schema.otherKeywords.primaryType? = schema.primaryType? := by
  cases schema <;> rfl

/-- An object schema is checked with its properties, its patterns and what its other keywords hold.
-/
theorem places_eq (objects : schema.primaryType? = some .object) :
    schema.places = schema.properties .named
      ++ (Parts.labelled "pattern:" (schema.properties .pattern)
        ++ schema.otherKeywords.places) := by
  cases schema with
  | boolean accepts => cases objects
  | object facets parts =>
    have htype : facets.primaryType? = some .object := objects
    have hblank : Facets.primaryType? { facets with required := none } = some .object := objects
    show parts.walked facets.primaryType? = parts.properties.getD []
      ++ (Parts.labelled "pattern:" (parts.patternProperties.getD [])
        ++ Parts.walked (Facets.primaryType? { facets with required := none })
          { parts with properties := none, patternProperties := none })
    rw [htype, hblank]
    simp [Parts.walked, Parts.ofObject, Parts.labelled]

theorem names_places (objects : schema.primaryType? = some .object) :
    names schema.places = names (schema.properties .named)
      ++ ((names (schema.properties .pattern)).map ("pattern:" ++ ·)
        ++ names schema.otherKeywords.places) := by
  rw [places_eq objects, names_append, names_append, Parts.names_labelled]

theorem KeysDistinct.nodup_properties (distinct : schema.KeysDistinct)
    (objects : schema.primaryType? = some .object) (kind : PropertyKind) :
    (names (schema.properties kind)).Nodup := by
  rw [keysDistinct_iff, names_places objects] at distinct
  cases kind with
  | named => exact distinct.of_append_left
  | pattern => exact distinct.of_append_right.of_append_left.of_map

theorem KeysDistinct.otherKeywords (distinct : schema.KeysDistinct)
    (objects : schema.primaryType? = some .object) : schema.otherKeywords.KeysDistinct := by
  rw [keysDistinct_iff, names_places objects] at distinct
  exact keysDistinct_iff.mpr distinct.of_append_right.of_append_right

theorem totalErrors_append (schemas others : List Schema) :
    totalErrors messages (schemas ++ others)
      = totalErrors messages schemas + totalErrors messages others := by
  rw [totalErrors, List.map_append, List.sum_append]
  rfl

theorem totalErrors_perm {schemas others : List Schema} (h : List.Perm schemas others) :
    totalErrors messages schemas = totalErrors messages others :=
  (h.map _).sum_nat

theorem values_labelled (label : String) (schemas : Members Schema) :
    values (Parts.labelled label schemas) = values schemas := by
  rw [values, Parts.labelled, List.map_map]
  rfl

theorem errorCount_of_distinct (distinct : schema.KeysDistinct) :
    schema.errorCount messages
      = schema.ownIssueCount + totalErrors messages (values schema.places) := by
  cases schema with
  | boolean accepts => exact errorCount_boolean messages accepts
  | object facets parts =>
    rw [errorCount, errorCount_object, ofEntries_of_nodup distinct, totalErrors, values,
      List.map_map]
    rfl

/-- The errors of an object schema are those of its properties and patterns and those of the rest.
-/
theorem errorCount_eq (objects : schema.primaryType? = some .object)
    (distinct : schema.KeysDistinct) :
    schema.errorCount messages = totalErrors messages (values (schema.properties .named))
      + totalErrors messages (values (schema.properties .pattern))
      + schema.otherKeywords.errorCount messages := by
  -- the rules for objects do not look at the properties and the required names
  have hown : schema.otherKeywords.ownIssueCount = schema.ownIssueCount := by
    cases schema <;> rfl
  have hvalues : values schema.places = values (schema.properties .named)
      ++ (values (schema.properties .pattern) ++ values schema.otherKeywords.places) := by
    rw [places_eq objects, ← values_labelled "pattern:" (schema.properties .pattern)]
    simp only [values, List.map_append]
  rw [errorCount_of_distinct messages distinct,
    errorCount_of_distinct messages (distinct.otherKeywords objects), hvalues, totalErrors_append,
    totalErrors_append, hown]
  omega

theorem errorsAt_le (objects : schema.primaryType? = some .object) (distinct : schema.KeysDistinct)
    (kind : PropertyKind) (name : String) :
    schema.errorsAt messages kind name ≤ schema.errorCount messages := by
  -- the map is the property under the name and the rest
  have hperm := values_erase_perm (distinct.nodup_properties objects kind) name
  have htotal := totalErrors_perm messages hperm
  rw [totalErrors_append] at htotal
  have hcount := errorCount_eq messages objects distinct
  rw [errorsAt]
  cases kind <;> omega

end Schema

/-! ### Edits -/

namespace Edit

variable {edit : Edit} {schema : Schema} (messages : Messages)

theorem primaryType?_apply (h : edit.OfProperties) (schema : Schema) :
    (edit.apply schema).primaryType? = schema.primaryType? := by
  rw [← Schema.primaryType?_otherKeywords, otherKeywords_apply h, Schema.primaryType?_otherKeywords]

/-- Where no map gets a name that it did not have, no two places get one key. -/
theorem keysDistinct_apply (h : edit.OfProperties) (objects : schema.primaryType? = some .object)
    (distinct : schema.KeysDistinct)
    (sublist : ∀ kind, List.Sublist (names ((edit.apply schema).properties kind))
      (names (schema.properties kind))) : (edit.apply schema).KeysDistinct := by
  rw [Schema.keysDistinct_iff, Schema.names_places objects] at distinct
  rw [Schema.keysDistinct_iff, Schema.names_places ((primaryType?_apply h schema).trans objects),
    otherKeywords_apply h]
  refine distinct.sublist ?_
  exact (sublist .named).append (((sublist .pattern).map _).append_right _)

/-- An edit changes the error count by the errors of the properties that it brings and of those that
it takes out. -/
theorem errorCount_apply (objects : schema.primaryType? = some .object)
    (distinct : schema.KeysDistinct) (edit : Edit) (h : edit.OfProperties)
    (distinct' : (edit.apply schema).KeysDistinct)
    (separates : ∀ kind, (edit.mapChange schema kind).Separates (schema.properties kind)) :
    (edit.apply schema).errorCount messages
        + Schema.totalErrors messages
            ((edit.mapChange schema .named).displaced (schema.properties .named)
              ++ (edit.mapChange schema .pattern).displaced (schema.properties .pattern))
      = schema.errorCount messages
        + Schema.totalErrors messages
            ((edit.mapChange schema .named).given ++ (edit.mapChange schema .pattern).given) := by
  -- in each map, what is there afterwards and what was taken out are what was there and what was
  -- given
  have hmap (kind : PropertyKind) := Schema.totalErrors_perm messages
    (MapChange.values_apply_perm (distinct.nodup_properties objects kind) (separates kind))
  simp only [Schema.totalErrors_append] at hmap ⊢
  have hnamed := hmap .named
  have hpattern := hmap .pattern
  rw [Schema.errorCount_eq messages ((primaryType?_apply h schema).trans objects) distinct',
    Schema.errorCount_eq messages objects distinct, otherKeywords_apply h, properties_apply h,
    properties_apply h]
  omega

/-- The same for an edit of one map. -/
theorem errorCount_apply_one (objects : schema.primaryType? = some .object)
    (distinct : schema.KeysDistinct) (edit : Edit) (h : edit.OfProperties)
    (distinct' : (edit.apply schema).KeysDistinct) (target : PropertyKind) (change : MapChange)
    (hchange : ∀ kind, edit.mapChange schema kind = if kind = target then change else .keep)
    (separates : change.Separates (schema.properties target)) :
    (edit.apply schema).errorCount messages
        + Schema.totalErrors messages (change.displaced (schema.properties target))
      = schema.errorCount messages + Schema.totalErrors messages change.given := by
  have hcount := errorCount_apply messages objects distinct edit h distinct' fun kind => by
    rw [hchange]
    split
    · next heq => exact heq ▸ separates
    · trivial
  rw [hchange, hchange] at hcount
  cases target <;> simpa [MapChange.displaced, MapChange.given] using hcount

section

variable {facets : Facets} {parts : Parts Schema} {kind : PropertyKind} {name old new : String}
  (objects : (Schema.object facets parts).primaryType? = some .object)
  (distinct : (Schema.object facets parts).KeysDistinct)

include objects distinct

theorem errorCount_update {property : Schema}
    (distinct' : ((update kind name property).apply (.object facets parts)).KeysDistinct) :
    ((update kind name property).apply (.object facets parts)).errorCount messages
        + (Schema.object facets parts).errorsAt messages kind name
      = (Schema.object facets parts).errorCount messages + property.errorCount messages :=
  errorCount_apply_one messages objects distinct (update kind name property) trivial distinct' kind
    (.put name property) (fun _ => rfl) trivial

theorem errorCount_remove (kind : PropertyKind) (name : String) :
    ((remove kind name).apply (.object facets parts)).errorCount messages
        + (Schema.object facets parts).errorsAt messages kind name
      = (Schema.object facets parts).errorCount messages := by
  have h : (remove kind name).OfProperties := trivial
  have distinct' : ((remove kind name).apply (.object facets parts)).KeysDistinct := by
    refine keysDistinct_apply h objects distinct fun source => ?_
    rw [properties_apply h]
    simp only [mapChange]
    split
    · exact List.filter_sublist.map _
    · exact List.Sublist.refl _
  exact errorCount_apply_one messages objects distinct (remove kind name) h distinct' kind
    (.take name) (fun _ => rfl) trivial

theorem errorCount_require (name : String) (required : Bool) :
    ((require name required).apply (.object facets parts)).errorCount messages
      = (Schema.object facets parts).errorCount messages := by
  have h : (require name required).OfProperties := trivial
  have distinct' : ((require name required).apply (.object facets parts)).KeysDistinct := by
    refine keysDistinct_apply h objects distinct fun source => ?_
    rw [properties_apply h]
    exact List.Sublist.refl _
  exact Nat.add_right_cancel (errorCount_apply_one messages objects distinct
    (require name required) h distinct' .named .keep (fun _ => (ite_self _).symm) trivial)

theorem errorCount_rename (h : new ∉ names ((Schema.object facets parts).properties kind))
    (distinct' : ((rename kind old new).apply (.object facets parts)).KeysDistinct) :
    ((rename kind old new).apply (.object facets parts)).errorCount messages
      = (Schema.object facets parts).errorCount messages :=
  Nat.add_right_cancel (errorCount_apply_one messages objects distinct (rename kind old new)
    trivial distinct' kind (.rename old new) (fun _ => rfl) h)

/-- The property that is moved has as many errors as it had. -/
theorem errorCount_toggle (h : name ∉ names ((Schema.object facets parts).properties kind.other))
    (distinct' : ((toggle kind name).apply (.object facets parts)).KeysDistinct) :
    ((toggle kind name).apply (.object facets parts)).errorCount messages
      = (Schema.object facets parts).errorCount messages := by
  have separates (source : PropertyKind) :
      ((toggle kind name).mapChange (.object facets parts) source).Separates
        ((Schema.object facets parts).properties source) := by
    simp only [mapChange]
    split
    · trivial
    · split <;> trivial
  have hcount := errorCount_apply messages objects distinct (toggle kind name) trivial distinct'
    separates
  simp only [mapChange] at hcount
  -- what one map loses the other one gets, and the name took the place of nothing there
  cases hfound : ((Schema.object facets parts).properties kind).lookup name with
  | none =>
    rw [hfound] at hcount
    exact hcount
  | some property =>
    rw [hfound] at hcount
    have hother := lookup_eq_none.mpr h
    cases kind <;> rw [PropertyKind.other] at hother <;>
      simpa [MapChange.displaced, MapChange.given, hfound, hother] using hcount

end

end Edit

namespace Schema

/-- An edit of an object schema changes its error count by what it edits, as long as the children
have different keys. The errors of the property under a name are among those of the schema; putting
another one there replaces them by its own, and taking it out takes them away. Renaming a property
to a name that is not in use, moving it to the other map if its name is not in use there, and
editing the required names leave the count as it is. -/
theorem errorCount_edited {schema : Schema} (messages : Messages)
    (objects : schema.primaryType? = some .object) (distinct : schema.KeysDistinct) :
    let errors := errorCount messages
    (∀ kind name, schema.errorsAt messages kind name ≤ errors schema)
      ∧ (∀ kind name property, (schema.insertProperty kind name property).KeysDistinct →
          errors (schema.insertProperty kind name property)
            = errors schema - schema.errorsAt messages kind name + errors property)
      ∧ (∀ kind name, errors (schema.removeProperty kind name)
          = errors schema - schema.errorsAt messages kind name)
      ∧ (∀ kind old new, new ∉ names (schema.properties kind) →
          (schema.renameProperty kind old new).KeysDistinct →
            errors (schema.renameProperty kind old new) = errors schema)
      ∧ (∀ kind name, name ∉ names (schema.properties kind.other) →
          (schema.toggleProperty kind name).KeysDistinct →
            errors (schema.toggleProperty kind name) = errors schema)
      ∧ ∀ name required, errors (schema.setRequired name required) = errors schema := by
  intro errors
  have hle := errorsAt_le messages objects distinct
  cases schema with
  | boolean accepts => cases objects
  | object facets parts =>
    refine ⟨hle, fun kind name property distinct' => ?_, fun kind name => ?_,
      fun kind old new h => Edit.errorCount_rename messages objects distinct h,
      fun kind name h => Edit.errorCount_toggle messages objects distinct h,
      Edit.errorCount_require messages objects distinct⟩
    · have hupdate := Edit.errorCount_update messages objects distinct distinct'
      have hkind := hle kind name
      show ((Edit.update kind name property).apply (object facets parts)).errorCount messages
        = (object facets parts).errorCount messages - _ + property.errorCount messages
      omega
    · have hremove := Edit.errorCount_remove messages objects distinct kind name
      show ((Edit.remove kind name).apply (object facets parts)).errorCount messages
        = (object facets parts).errorCount messages - _
      omega

/-- A property that accepts no value replaces one that has no errors, and the one that is there is
taken out, renamed, or made a pattern. -/
theorem errorCount_edited_sample :
    Edit.sampleSchema.primaryType? = some .object
      ∧ Edit.sampleSchema.KeysDistinct
      ∧ (Edit.sampleSchema.insertProperty .named "b" (.boolean false)).KeysDistinct
      ∧ "d" ∉ names (Edit.sampleSchema.properties .named)
      ∧ (Edit.sampleSchema.renameProperty .named "a" "d").KeysDistinct
      ∧ "a" ∉ names (Edit.sampleSchema.properties .pattern)
      ∧ (Edit.sampleSchema.toggleProperty .named "a").KeysDistinct
      ∧ (Edit.sampleSchema.insertProperty .named "b" (.boolean false)).errorCount {} = 2
      ∧ (Edit.sampleSchema.removeProperty .named "a").errorCount {} = 0
      ∧ (Edit.sampleSchema.renameProperty .named "a" "d").errorCount {} = 1
      ∧ (Edit.sampleSchema.toggleProperty .named "a").errorCount {} = 1
      ∧ (Edit.sampleSchema.setRequired "b" true).errorCount {} = 1 := by
  have distinct : Edit.sampleSchema.KeysDistinct := by decide
  have hinserted : (Edit.sampleSchema.insertProperty .named "b" (.boolean false)).KeysDistinct := by
    decide
  have hrenamed : (Edit.sampleSchema.renameProperty .named "a" "d").KeysDistinct := by decide
  have htoggled : (Edit.sampleSchema.toggleProperty .named "a").KeysDistinct := by decide
  have hnew : "d" ∉ names (Edit.sampleSchema.properties .named) := by decide
  have hother : "a" ∉ names (Edit.sampleSchema.properties .pattern) := by decide
  have hcount : Edit.sampleSchema.errorCount {} = 1 := by decide
  obtain ⟨-, hinsert, hremove, hrename, htoggle, hrequire⟩ := errorCount_edited {} rfl distinct
  refine ⟨rfl, distinct, hinserted, hnew, hrenamed, hother, htoggled, ?_, ?_, ?_, ?_, ?_⟩
  · exact (hinsert .named "b" (.boolean false) hinserted).trans (by decide)
  · exact (hremove .named "a").trans (by decide)
  · exact (hrename .named "a" "d" hnew hrenamed).trans hcount
  · exact (htoggle .named "a" hother htoggled).trans hcount
  · exact (hrequire "b" true).trans hcount

end Schema

end JsonShape
