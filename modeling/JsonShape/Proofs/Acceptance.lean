import JsonShape.Instance.Validation
import JsonShape.Proofs.Reading
import JsonShape.Proofs.Rounding
import JsonShape.Proofs.Writing

/-!
# Acceptance of values by written schemas

A value is accepted by the written form of a schema if no keyword has a violation. For the keywords
that inference gives, this is what the strict reading says.

* **One keyword** (`Validation.passes_required`, `Validation.passes_oneOf` and others) — what it
  takes for a value to pass the assertion that a keyword is written as.
* **All keywords of a schema** (`Schema.accepts_written`) — a written schema accepts what passes
  each of its written keywords.
* **The whole schema** (`Schema.accepts_iff_holds`) — the written form of a schema with no other
  keywords accepts exactly the values of which the schema holds in the strict reading.
-/

namespace JsonShape

open Members

/-! ### Keywords of inferred schemas -/

/-- The facets have no other keywords than those of inferred schemas, with values of their form. -/
structure Facets.Emitted (facets : Facets) : Prop where
  text : ∀ keyword value, facets.text? keyword = some value →
    keyword = .description ∨ keyword = .format
  number : ∀ keyword value, facets.number? keyword = some value →
    (keyword = .minItems ∨ keyword = .maxItems) ∧ ∃ count : Nat, count ≤ 3 ∧ value = .ofInt count
  type : ∀ spec, facets.type = some spec → ∃ type, spec = .single type
  required : ∀ names, facets.required = some names → names.Nodup
  uniqueItems : facets.uniqueItems = none
  choices : ∀ values, facets.choices = some values →
    ∀ value ∈ values, (value.isString || value.isNumber) = true
  extra : facets.extra = []

/-- The parts have no other keywords than those of inferred schemas. -/
structure Parts.Emitted {α : Type} (parts : Parts α) : Prop where
  map : ∀ keyword schemas, parts.map? keyword = some schemas →
    keyword = .properties ∧ (names schemas).Nodup
  list : ∀ keyword schemas, parts.list? keyword = some schemas →
    keyword = .oneOf ∧ schemas ≠ []
  single : ∀ keyword, parts.single? keyword = none
  items : ∀ items, parts.items = some items → ∃ schema, items = .single schema

/-- A schema and all below it have no other keywords than those of inferred schemas. -/
inductive Schema.Emitted : Schema → Prop
  | object {facets parts} : facets.Emitted → parts.Emitted →
      (∀ part ∈ parts.toList, Emitted part) → Emitted (object facets parts)

theorem Facets.Emitted.lossless {facets : Facets} (emitted : facets.Emitted) : facets.Lossless where
  type := by
    intro spec hspec
    obtain ⟨type, rfl⟩ := emitted.type spec hspec
    rfl
  choices values hvalues value hvalue :=
    Json.collapse_of_isListable (emitted.choices values hvalues value hvalue)
  extra := emitted.extra

theorem Parts.Emitted.unique {α : Type} {parts : Parts α} (emitted : parts.Emitted) :
    parts.UniqueNames := by
  intro keyword
  cases h : parts.map? keyword with
  | none => exact List.nodup_nil
  | some schemas => exact (emitted.map keyword schemas h).2

theorem Schema.Emitted.toJson_eq {schema : Schema} (emitted : schema.Emitted) :
    ∃ members, schema.toJson = .object members := by
  cases emitted with
  | object hfacets hparts _ => exact ⟨_, toJson_object hfacets.lossless hparts.unique⟩

/-! ### Assertions without violations -/

namespace Assertion

variable {value : Json}

theorem require_eq_nil {holds : Bool} {reason : Reason} :
    require holds value reason = [] ↔ holds = true := by
  cases holds <;> simp [require]

theorem within_eq_nil {key : String} {check : Check} :
    within key check value = [] ↔ check value = [] := List.map_eq_nil_iff

end Assertion

namespace Validation

-- which assertion a keyword gives is found by unfolding; all lemmas about keywords do so
attribute [local simp] ofMember Assertion.ofValue?

theorem ofList_eq (schemas : List Json) : ofList schemas = schemas.map ofJson := by
  induction schemas with
  | nil => rw [ofList, List.map_nil]
  | cons schema rest ih => rw [ofList, ih, List.map_cons]

theorem ofMap_eq (schemas : Members Json) : ofMap schemas = Parts.mapMembers ofJson schemas := by
  induction schemas with
  | nil =>
    rw [ofMap]
    rfl
  | cons entry rest ih =>
    obtain ⟨name, schema⟩ := entry
    rw [ofMap, ih]
    rfl

theorem mem_ofMembers {members : Members Json} {assertion : Assertion Check} :
    assertion ∈ ofMembers members ↔
      ∃ member ∈ members, ofMember member.1 member.2 = some assertion := by
  induction members with
  | nil => simp [ofMembers]
  | cons member rest ih =>
    obtain ⟨name, value⟩ := member
    rw [ofMembers, List.mem_append, ih, Option.mem_toList]
    simp

/-- A keyword has no violation by a value. -/
def Passes (name : String) (written value : Json) : Prop :=
  ∀ assertion, ofMember name written = some assertion → assertion.violations value = []

theorem accepts_object {members : Members Json} {value : Json}
    (isOpen : members.lookup "additionalProperties" = none) :
    (Json.object members).accepts value = true ↔
      ∀ member ∈ members, Passes member.1 member.2 value := by
  unfold Json.accepts Json.violations
  rw [List.isEmpty_iff, ofJson]
  dsimp only
  rw [Assertion.closesProperties, isOpen, if_neg (by decide), List.flatMap_eq_nil_iff]
  constructor
  · intro h member hmember assertion hassertion
    exact h assertion (mem_ofMembers.mpr ⟨member, hmember, hassertion⟩)
  · intro h assertion hassertion
    obtain ⟨member, hmember, heq⟩ := mem_ofMembers.mp hassertion
    exact h member hmember assertion heq

theorem passes_of_some {name : String} {written value : Json} {assertion : Assertion Check}
    (h : ofMember name written = some assertion) :
    Passes name written value ↔ assertion.violations value = [] := by
  constructor
  · intro hpasses
    exact hpasses assertion h
  · intro hnil found hfound
    rw [h] at hfound
    cases hfound
    exact hnil

theorem passes_of_none {name : String} {written value : Json} (h : ofMember name written = none) :
    Passes name written value := by
  intro assertion hassertion
  rw [h] at hassertion
  cases hassertion

/-! ### Keyword by keyword -/

variable {value : Json}

theorem passes_type {type : TypeName} :
    Passes "type" (.string type.name) value ↔ type.hasValue value = true := by
  have hmember : ofMember "type" (.string type.name) = some (.type [type]) := by
    simp [Assertion.typesOf?, TypeName.ofName?_name]
  rw [passes_of_some hmember]
  show Assertion.require _ _ _ = [] ↔ _
  rw [Assertion.require_eq_nil]
  simp

theorem passes_required {required : List String} :
    Passes "required" (.array (required.map .string)) value ↔
      ∀ members : Members Json, value = .object members →
        required.all (contains members) = true := by
  have hmember :
      ofMember "required" (.array (required.map .string)) = some (.required required) := by
    simp [Json.stringList?_map]
  rw [passes_of_some hmember]
  cases value with
  | object members =>
    show List.flatMap _ _ = [] ↔ _
    simp [Assertion.require_eq_nil]
  | _ => simp [Assertion.violations]

theorem passes_choices {values : List Json} :
    Passes "enum" (.array values) value ↔ values.any (·.equals value) = true := by
  have hmember : ofMember "enum" (.array values) = some (.choices values) := by
    simp
  rw [passes_of_some hmember]
  exact Assertion.require_eq_nil

theorem accepts_iff {schema : Json} : schema.accepts value = true ↔ ofJson schema value = [] :=
  List.isEmpty_iff

theorem passes_oneOf {schemas : List Json} :
    Passes "oneOf" (.array schemas) value ↔
      (schemas.map (·.accepts value)).count true = 1 := by
  have hmember : ofMember "oneOf" (.array schemas) = some (.oneOf (schemas.map ofJson)) := by
    simp [ofList_eq]
  -- the alternatives without a violation are those with the verdict `true`
  have hcount : ((schemas.map ofJson).filter fun check => (check value).isEmpty).length
      = (schemas.map (·.accepts value)).count true := by
    rw [List.filter_map, List.length_map, List.count, List.countP_map, List.countP_eq_length_filter]
    congr 1
    refine List.filter_congr fun schema _ => ?_
    exact (beq_true _).symm
  rw [passes_of_some hmember, Assertion.violations, ← hcount]
  split
  · next h => simp [h]
  · next h => simp [h]
  · next h0 h1 =>
    constructor
    · intro h
      cases h
    · intro h
      exact absurd h h1

theorem passes_properties {schemas : Members Json} :
    Passes "properties" (.object schemas) value ↔
      ∀ members : Members Json, value = .object members → ∀ entry ∈ schemas, ∀ x,
        members.lookup entry.1 = some x → entry.2.accepts x = true := by
  have hmember : ofMember "properties" (.object schemas)
      = some (.properties (Parts.mapMembers ofJson schemas)) := by
    simp [ofMap_eq]
  rw [passes_of_some hmember]
  cases value with
  | object members =>
    show List.flatMap _ (Parts.mapMembers ofJson schemas) = [] ↔ _
    rw [List.flatMap_eq_nil_iff, Parts.mapMembers, List.forall_mem_map]
    constructor
    · rintro h _ ⟨⟩ entry hentry x hx
      have hnil := h entry hentry
      simp only [hx, Option.map_some, Option.getD_some, Assertion.within_eq_nil] at hnil
      exact accepts_iff.mpr hnil
    · intro h entry hentry
      dsimp only
      cases hx : members.lookup entry.1 with
      | none => rfl
      | some x =>
        exact Assertion.within_eq_nil.mpr (accepts_iff.mp (h members rfl entry hentry x hx))
  | _ => simp [Assertion.violations]

theorem passes_items {schema : Members Json} :
    Passes "items" (.object schema) value ↔
      ∀ elements, value = .array elements → ∀ element ∈ elements,
        (Json.object schema).accepts element = true := by
  have hmember : ofMember "items" (.object schema) = some (.items (ofJson (.object schema))) := by
    simp
  rw [passes_of_some hmember]
  cases value with
  | array elements =>
    show List.flatMap _ elements.zipIdx = [] ↔ _
    rw [List.flatMap_eq_nil_iff]
    constructor
    · rintro h _ ⟨⟩ element helement
      -- the assertion goes by places, as a violation names the one where it is
      obtain ⟨i, hi⟩ := List.mem_iff_getElem?.mp helement
      have hnil := h (element, i) (List.mem_zipIdx_iff_getElem?.mpr hi)
      exact accepts_iff.mpr (Assertion.within_eq_nil.mp hnil)
    · rintro h ⟨element, i⟩ hmem
      have helement : element ∈ elements :=
        List.mem_of_getElem? (List.mem_zipIdx_iff_getElem?.mp hmem)
      exact Assertion.within_eq_nil.mpr (accepts_iff.mp (h elements rfl element helement))
  | _ => simp [Assertion.violations]

theorem limit_ofInt {count : Nat} (small : count ≤ 3) :
    Assertion.limit? (.number (.ofInt count)) = some count := by
  rw [Number.ofInt, dif_pos (by omega)]
  show (if (0 : Int) ≤ count then some (count : Int).toNat else none) = _
  rw [if_pos (by omega), Int.toNat_natCast]

theorem mul_one_le_iff {m n : Nat} : (m : Int) * Binary64.one ≤ n * Binary64.one ↔ m ≤ n := by
  rw [Binary64.mul_one_le_iff, Int.ofNat_le]

/-- A condition on the number of elements says nothing about values that are no arrays. -/
theorem ofCount_items_eq_nil {holds : Nat → Bool} {reason : Reason} :
    Assertion.ofCount .items value holds reason = [] ↔
      ∀ elements, value = .array elements → holds elements.length = true := by
  unfold Assertion.ofCount
  rw [Assertion.require_eq_nil]
  cases value with
  | array elements =>
    constructor
    · rintro h _ ⟨⟩
      exact h
    · intro h
      exact h elements rfl
  | _ => exact iff_of_true rfl nofun

theorem passes_minItems {count : Nat} (small : count ≤ 3) :
    Passes "minItems" (.number (.ofInt count)) value ↔
      ∀ elements, value = .array elements →
        (Number.ofInt count).units ≤ (elements.length : Int) * Binary64.one := by
  have hmember : ofMember "minItems" (.number (.ofInt count)) = some (.least .items count) := by
    simp [limit_ofInt small]
  rw [passes_of_some hmember, Number.units_ofInt (by omega)]
  refine ofCount_items_eq_nil.trans (forall₂_congr fun elements _ => ?_)
  rw [decide_eq_true_eq, mul_one_le_iff]

theorem passes_maxItems {count : Nat} (small : count ≤ 3) :
    Passes "maxItems" (.number (.ofInt count)) value ↔
      ∀ elements, value = .array elements →
        (elements.length : Int) * Binary64.one ≤ (Number.ofInt count).units := by
  have hmember : ofMember "maxItems" (.number (.ofInt count)) = some (.most .items count) := by
    simp [limit_ofInt small]
  rw [passes_of_some hmember, Number.units_ofInt (by omega)]
  refine ofCount_items_eq_nil.trans (forall₂_congr fun elements _ => ?_)
  rw [decide_eq_true_eq, mul_one_le_iff]

end Validation

/-! ### The strict reading -/

namespace Schema

open Validation

variable {facets : Facets} {parts : Parts Schema} {value : Json}

/-- What a schema with the keywords of inferred ones has under a keyword when it is written. -/
inductive Entry (facets : Facets) (parts : Parts Schema) : Keyword → Json → Prop
  | text {keyword : TextKeyword} {text : String} : keyword = .description ∨ keyword = .format →
      Entry facets parts (.text keyword) (.string text)
  | minItems {count : Nat} : count ≤ 3 → facets.minItems = some (.ofInt count) →
      Entry facets parts (.number .minItems) (.number (.ofInt count))
  | maxItems {count : Nat} : count ≤ 3 → facets.maxItems = some (.ofInt count) →
      Entry facets parts (.number .maxItems) (.number (.ofInt count))
  | properties {entries : Members Schema} : parts.properties = some entries →
      Entry facets parts (.map .properties) (.object (Parts.mapMembers toJson entries))
  | oneOf {alternatives : List Schema} : parts.oneOf = some alternatives → alternatives ≠ [] →
      Entry facets parts (.list .oneOf) (.array (alternatives.map toJson))
  | type {type : TypeName} : facets.type = some (.single type) →
      Entry facets parts .type (.string type.name)
  | required {names : List String} : facets.required = some names → names.Nodup →
      Entry facets parts .required (.array (names.map .string))
  | choices {values : List Json} : facets.choices = some values →
      Entry facets parts .choices (.array values)
  | items {schema : Schema} : parts.items = some (.single schema) →
      Entry facets parts .items schema.toJson

theorem entry_of_written (hfacets : facets.Emitted) (hparts : parts.Emitted) {keyword : Keyword}
    {written : Json} (h : facets.written? (parts.map toJson) keyword = some written) :
    Entry facets parts keyword written := by
  cases keyword with
  | text keyword =>
    obtain ⟨text, htext, rfl⟩ := Option.map_eq_some_iff.mp h
    exact .text (hfacets.text keyword text htext)
  | number keyword =>
    obtain ⟨limit, hlimit, rfl⟩ := Option.map_eq_some_iff.mp h
    obtain ⟨hkeyword, count, hsmall, heq⟩ := hfacets.number keyword limit hlimit
    rw [heq] at hlimit ⊢
    rcases hkeyword with rfl | rfl
    · exact .minItems hsmall hlimit
    · exact .maxItems hsmall hlimit
  | map keyword =>
    rw [Facets.written?, Parts.map?_map, Option.map_map] at h
    obtain ⟨entries, hentries, rfl⟩ := Option.map_eq_some_iff.mp h
    obtain ⟨rfl, _⟩ := hparts.map keyword entries hentries
    exact .properties hentries
  | list keyword =>
    rw [Facets.written?, Parts.list?_map, Option.map_map] at h
    obtain ⟨alternatives, halternatives, rfl⟩ := Option.map_eq_some_iff.mp h
    obtain ⟨rfl, nonempty⟩ := hparts.list keyword alternatives halternatives
    exact .oneOf halternatives nonempty
  | single keyword =>
    rw [Facets.written?, Parts.single?_map, hparts.single] at h
    cases h
  | type =>
    obtain ⟨spec, hspec, rfl⟩ := Option.map_eq_some_iff.mp h
    obtain ⟨type, rfl⟩ := hfacets.type spec hspec
    exact .type hspec
  | required =>
    obtain ⟨names, hnames, rfl⟩ := Option.map_eq_some_iff.mp h
    exact .required hnames (hfacets.required names hnames)
  | uniqueItems =>
    rw [Facets.written?, hfacets.uniqueItems] at h
    cases h
  | choices =>
    obtain ⟨values, hvalues, rfl⟩ := Option.map_eq_some_iff.mp h
    exact .choices hvalues
  | items =>
    rw [Facets.written?, Parts.map, Option.map_map] at h
    obtain ⟨items, hspec, rfl⟩ := Option.map_eq_some_iff.mp h
    obtain ⟨schema, rfl⟩ := hparts.items items hspec
    exact .items hspec

/-- A written schema accepts a value if none of its keywords has a violation. -/
theorem accepts_written (hfacets : facets.Emitted) (hparts : parts.Emitted) :
    (object facets parts).toJson.accepts value = true ↔
      ∀ keyword written, facets.written? (parts.map toJson) keyword = some written →
        Passes keyword.name written value := by
  have hlookup : (facets.members (parts.map toJson)).lookup "additionalProperties"
      = facets.written? (parts.map toJson) (.single .additionalProperties) :=
    Facets.lookup_members hfacets.lossless (parts.map toJson) (.single .additionalProperties)
  -- so `properties` stays an assertion of its own
  have isOpen : (facets.members (parts.map toJson)).lookup "additionalProperties" = none := by
    rw [hlookup, Facets.written?, Parts.single?_map, hparts.single]
    rfl
  rw [toJson_object hfacets.lossless hparts.unique, accepts_object isOpen]
  constructor
  · intro h keyword written hwritten
    exact h (keyword.name, written) ((Facets.mem_members hfacets.lossless).mpr ⟨_, rfl, hwritten⟩)
  · rintro h ⟨name, written⟩ hmember
    obtain ⟨keyword, rfl, hwritten⟩ := (Facets.mem_members hfacets.lossless).mp hmember
    exact h keyword written hwritten

theorem mapMembers_entry {f : Schema → Json} {members : Members Schema} {p : String × Json → Prop} :
    (∀ entry ∈ Parts.mapMembers f members, p entry) ↔
      ∀ entry ∈ members, p (entry.1, f entry.2) :=
  List.forall_mem_map

theorem verdicts_eq {alternatives : List Schema}
    (h : ∀ part ∈ alternatives,
      part.toJson.accepts value = true ↔ part.holds .strict value = true) :
    (alternatives.map toJson).map (·.accepts value) = alternatives.map (holds .strict · value) := by
  rw [List.map_map]
  exact List.map_congr_left fun part hpart => Bool.eq_iff_iff.mpr (h part hpart)

theorem admits_of_passes (hfacets : facets.Emitted)
    (h : ∀ keyword written, facets.written? (parts.map toJson) keyword = some written →
      Passes keyword.name written value) : facets.admits .strict value = true := by
  -- one condition for each keyword that facets of inferred schemas can have
  refine admits_facets.mpr ⟨?_, ?_, ?_, ?_⟩
  · cases htype : facets.type with
    | none => rfl
    | some spec =>
      obtain ⟨type, rfl⟩ := hfacets.type spec htype
      exact passes_type.mp (h .type (.string type.name) (by rw [Facets.written?, htype]; rfl))
  · cases hchoices : facets.choices with
    | none => rfl
    | some values =>
      exact passes_choices.mp (h .choices (.array values) (by rw [Facets.written?, hchoices]; rfl))
  · intro members hvalue
    cases hrequired : facets.required with
    | none => rfl
    | some names =>
      have hpass := h .required (.array (names.map .string)) (by
        rw [Facets.written?, hrequired]
        rfl)
      exact passes_required.mp hpass members hvalue
  · intro elements hvalue
    constructor
    · cases hlimit : facets.minItems with
      | none => rfl
      | some limit =>
        obtain ⟨_, count, hsmall, heq⟩ := hfacets.number .minItems limit hlimit
        rw [heq] at hlimit ⊢
        have hpass := h (.number .minItems) (.number (.ofInt count))
          (by rw [Facets.written?, Facets.number?, hlimit]; rfl)
        rw [Option.all_some, decide_eq_true_eq]
        exact (passes_minItems hsmall).mp hpass elements hvalue
    · cases hlimit : facets.maxItems with
      | none => rfl
      | some limit =>
        obtain ⟨_, count, hsmall, heq⟩ := hfacets.number .maxItems limit hlimit
        rw [heq] at hlimit ⊢
        have hpass := h (.number .maxItems) (.number (.ofInt count))
          (by rw [Facets.written?, Facets.number?, hlimit]; rfl)
        rw [Option.all_some, decide_eq_true_eq]
        exact (passes_maxItems hsmall).mp hpass elements hvalue

theorem admits_parts_of_passes
    (h : ∀ keyword written, facets.written? (parts.map toJson) keyword = some written →
      Passes keyword.name written value)
    (emitted : ∀ part ∈ parts.toList, part.Emitted)
    (ih : ∀ part ∈ parts.toList, ∀ {value}, part.toJson.accepts value = true ↔
      part.holds .strict value = true) :
    (parts.map (holds .strict)).admits .strict value = true := by
  -- the alternatives, the properties and the elements; the induction is on the parts
  refine admits_parts.mpr ⟨?_, ?_, ?_⟩
  · intro alternatives halternatives
    have hpass := h (.list .oneOf) (.array (alternatives.map toJson))
      (by rw [Facets.written?, Parts.list?_map, Parts.list?, halternatives]; rfl)
    have hcount := passes_oneOf.mp hpass
    rw [verdicts_eq fun part hpart =>
      ih part (Parts.mem_toList_of_oneOf halternatives hpart)] at hcount
    exact beq_iff_eq.mpr hcount
  · rintro members hvalue entry hentry x hx
    cases hproperties : parts.properties with
    | none =>
      rw [hproperties] at hentry
      cases hentry
    | some entries =>
      rw [hproperties] at hentry
      have hpass := h (.map .properties) (.object (Parts.mapMembers toJson entries))
        (by rw [Facets.written?, Parts.map?_map, Parts.map?, hproperties]; rfl)
      refine (ih entry.2 (Parts.mem_toList_of_properties hproperties hentry)).mp ?_
      exact mapMembers_entry.mp (passes_properties.mp hpass members hvalue) entry hentry x hx
  · intro elements schema hvalue hitems element helement
    have hpart := Parts.mem_toList_of_items hitems
    obtain ⟨members, hmembers⟩ := (emitted schema hpart).toJson_eq
    have hpass := h .items (.object members)
      (by simp [Facets.written?, Parts.map, hitems, Items.map, hmembers])
    refine (ih schema hpart).mp ?_
    rw [hmembers]
    exact passes_items.mp hpass elements hvalue element helement

theorem passes_text (keyword : TextKeyword) (text : String) :
    Passes (Keyword.text keyword).name (.string text) value := by
  refine passes_of_none ?_
  cases keyword <;> simp [Keyword.name, ofMember, Assertion.ofValue?]

theorem passes_of_admits (hfacets : facets.Emitted) (hparts : parts.Emitted)
    (emitted : ∀ part ∈ parts.toList, part.Emitted)
    (ih : ∀ part ∈ parts.toList, ∀ {value}, part.toJson.accepts value = true ↔
      part.holds .strict value = true)
    (h : facets.admits .strict value = true)
    (h' : (parts.map (holds .strict)).admits .strict value = true) :
    ∀ keyword written, facets.written? (parts.map toJson) keyword = some written →
      Passes keyword.name written value := by
  obtain ⟨htype, hchoices, hrequired, hcounts⟩ := admits_facets.mp h
  obtain ⟨honeOf, hproperties, hitems⟩ := admits_parts.mp h'
  intro keyword written hwritten
  -- only the keywords of inferred schemas are written, so not every keyword is a case
  cases entry_of_written hfacets hparts hwritten with
  | text => exact passes_text _ _
  | minItems hsmall hlimit =>
    refine (passes_minItems hsmall).mpr fun elements hvalue => ?_
    have hmin := (hcounts elements hvalue).1
    rw [hlimit, Option.all_some, decide_eq_true_eq] at hmin
    exact hmin
  | maxItems hsmall hlimit =>
    refine (passes_maxItems hsmall).mpr fun elements hvalue => ?_
    have hmax := (hcounts elements hvalue).2
    rw [hlimit, Option.all_some, decide_eq_true_eq] at hmax
    exact hmax
  | properties hentries =>
    rw [hentries] at hproperties
    refine passes_properties.mpr fun members hvalue => mapMembers_entry.mpr ?_
    intro entry hentry x hx
    refine (ih entry.2 (Parts.mem_toList_of_properties hentries hentry)).mpr ?_
    exact hproperties members hvalue entry hentry x hx
  | oneOf halternatives =>
    refine passes_oneOf.mpr ?_
    rw [verdicts_eq fun part hpart => ih part (Parts.mem_toList_of_oneOf halternatives hpart)]
    exact beq_iff_eq.mp (honeOf _ halternatives)
  | type hspec =>
    rw [hspec] at htype
    exact passes_type.mpr htype
  | required hnames =>
    rw [hnames] at hrequired
    exact passes_required.mpr hrequired
  | choices hvalues =>
    rw [hvalues] at hchoices
    exact passes_choices.mpr hchoices
  | @items schema hspec =>
    -- the assertion is read off an object, so the written schema has to be seen as one
    have hpart := Parts.mem_toList_of_items hspec
    obtain ⟨members, hmembers⟩ := (emitted schema hpart).toJson_eq
    show Passes "items" schema.toJson value
    rw [hmembers]
    refine passes_items.mpr fun elements hvalue element helement => ?_
    rw [← hmembers]
    exact (ih schema hpart).mpr (hitems elements schema hvalue hspec element helement)

/-- The written form of a schema with the keywords of inferred ones accepts exactly the values of
which the schema holds. -/
theorem accepts_iff_holds {schema : Schema} (emitted : schema.Emitted) :
    schema.toJson.accepts value = true ↔ schema.holds .strict value = true := by
  -- the parts are asked about other values than the schema, so the value is not fixed
  induction emitted generalizing value with
  | object hfacets hparts hbelow ih =>
    rw [accepts_written hfacets hparts, holds_object]
    constructor
    · intro h
      exact ⟨admits_of_passes hfacets h, admits_parts_of_passes h hbelow ih⟩
    · rintro ⟨h, h'⟩
      exact passes_of_admits hfacets hparts hbelow ih h h'

end Schema

end JsonShape
