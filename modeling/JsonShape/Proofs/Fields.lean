import JsonShape.Proofs.Members
import JsonShape.Schema.Loading
import JsonShape.Schema.Writing
import Mathlib.Data.List.Nodup

/-!
# The fields of a schema by keyword

Facets and parts have a field for each keyword, and what is true of fields is mostly true of all of
them for the same reason. `Content` is what the field of a keyword holds; with it a schema is its
fields together with its other keywords (`eq_of_fields`), loading puts contents into fields
(`place?_eq`), and writing gets them out again (`written?_eq`).
-/

namespace JsonShape

open Members

namespace Keyword

/-- No two keywords have one name. -/
theorem name_injective : Function.Injective name := by
  intro a b h
  exact List.inj_on_of_nodup_map nodup_names (mem_all a) (mem_all b) h

theorem name_of_ofName? {name : String} {k : Keyword} (h : ofName? name = some k) :
    k.name = name := by
  rw [ofName?] at h
  have hname := List.find?_some h
  exact beq_iff_eq.mp hname

theorem ofName?_name (k : Keyword) : ofName? k.name = some k := by
  cases h : ofName? k.name with
  | none =>
    have hall := List.find?_eq_none.mp h k (mem_all k)
    exact absurd (beq_self_eq_true _) hall
  | some found => rw [name_injective (name_of_ofName? h)]

theorem lookup_cons_name {β : Type} (k other : Keyword) (value : β) (rest : Members β) :
    List.lookup other.name ((k.name, value) :: rest)
      = if other = k then some value else rest.lookup other.name := by
  rw [lookup_cons]
  by_cases h : other = k
  · rw [h, if_pos rfl, if_pos rfl]
  · rw [if_neg h, if_neg fun hname => h (name_injective hname).symm]

end Keyword

theorem TypeName.ofName?_name (type : TypeName) : ofName? type.name = some type := by
  cases type <;> decide

theorem Json.stringList?_map (texts : List String) :
    stringList? (texts.map .string) = some texts := by
  induction texts with
  | nil => rfl
  | cons text rest ih =>
    rw [List.map_cons, stringList?, ih]
    rfl

/-- What the field of a keyword holds, given the type of sub-schemas. -/
@[reducible] def Content (α : Type) : Keyword → Type
  | .text _ => String
  | .number _ => Number
  | .map _ => Members α
  | .list _ => List α
  | .single _ => α
  | .type => TypeSpec
  | .required => List String
  | .uniqueItems => Bool
  | .choices => List Json
  | .items => Items α

namespace Content

variable {α β : Type} {k : Keyword}

/-- Apply a function to every sub-schema. -/
def map (f : α → β) {k : Keyword} (content : Content α k) : Content β k :=
  match k, content with
  | .text _, content => content
  | .number _, content => content
  | .map _, schemas => Parts.mapMembers f schemas
  | .list _, schemas => List.map f schemas
  | .single _, schema => f schema
  | .type, content => content
  | .required, content => content
  | .uniqueItems, content => content
  | .choices, content => content
  | .items, items => Items.map f items

/-- The sub-schemas in order. -/
def toList {k : Keyword} (content : Content α k) : List α :=
  match k, content with
  | .map _, schemas => values schemas
  | .list _, schemas => schemas
  | .single _, schema => [schema]
  | .items, items => Items.toList items
  | _, _ => []

/-- The content as it is written. -/
def toJson {k : Keyword} (content : Content Json k) : Json :=
  match k, content with
  | .text _, text => .string text
  | .number _, number => .number number
  | .map _, schemas => .object schemas
  | .list _, schemas => .array schemas
  | .single _, schema => schema
  | .type, spec => TypeSpec.toJson spec
  | .required, names => .array (List.map .string names)
  | .uniqueItems, flag => .bool flag
  | .choices, values => .array values
  | .items, .tuple schemas => .array schemas
  | .items, .single schema => schema

/-- The content that a value has the form of. -/
def ofJson? : (k : Keyword) → Json → Option (Content Schema k)
  | .text _ => fun
    | .string text => some text
    | _ => none
  | .number _ => fun
    | .number number => some number
    | _ => none
  | .map _ => fun
    | .object members => Schema.mapOf? members
    | _ => none
  | .list _ => fun
    | .array values => Schema.listOf? values
    | _ => none
  | .single _ => Schema.ofJson?
  | .type => TypeSpec.ofJson?
  | .required => fun
    | .array values => Json.stringList? values
    | _ => none
  | .uniqueItems => fun
    | .bool flag => some flag
    | _ => none
  | .choices => fun
    | .array values => some values
    | _ => none
  | .items => fun
    | .array values => (Schema.listOf? values).map Items.tuple
    | value => (Schema.ofJson? value).map Items.single

end Content

variable {α β : Type}

/-- The field of a keyword. -/
def field? (facets : Facets) (parts : Parts α) : (k : Keyword) → Option (Content α k)
  | .text k => facets.text? k
  | .number k => facets.number? k
  | .map k => parts.map? k
  | .list k => parts.list? k
  | .single k => parts.single? k
  | .type => facets.type
  | .required => facets.required
  | .uniqueItems => facets.uniqueItems
  | .choices => facets.choices
  | .items => parts.items

/-- The facets and parts with a content put into the field of a keyword. -/
def setField (facets : Facets) (parts : Parts α) {k : Keyword} (content : Content α k) :
    Facets × Parts α :=
  match k, content with
  | .text k, text => (facets.setText text k, parts)
  | .number k, number => (facets.setNumber number k, parts)
  | .map k, schemas => (facets, parts.setMap schemas k)
  | .list k, schemas => (facets, parts.setList schemas k)
  | .single k, schema => (facets, parts.setSingle schema k)
  | .type, spec => ({ facets with type := some spec }, parts)
  | .required, names => ({ facets with required := some names }, parts)
  | .uniqueItems, flag => ({ facets with uniqueItems := some flag }, parts)
  | .choices, values => ({ facets with choices := some values }, parts)
  | .items, items => (facets, { parts with items := some items })

namespace Parts

variable (f : α → β) (parts : Parts α)

theorem map?_map (keyword : MapKeyword) :
    (parts.map f).map? keyword = (parts.map? keyword).map (mapMembers f) := by
  cases keyword <;> rfl

theorem list?_map (keyword : ListKeyword) :
    (parts.map f).list? keyword = (parts.list? keyword).map (List.map f) := by
  cases keyword <;> rfl

theorem single?_map (keyword : SingleKeyword) :
    (parts.map f).single? keyword = (parts.single? keyword).map f := by
  cases keyword <;> rfl

end Parts

/-! ### Fields and sub-schemas -/

section Fields

variable (facets : Facets) (parts : Parts α)

theorem field?_setField {k : Keyword} (content : Content α k) :
    field? (setField facets parts content).1 (setField facets parts content).2 k
      = some content := by
  cases k with
  | text k => cases k <;> rfl
  | number k => cases k <;> rfl
  | map k => cases k <;> rfl
  | list k => cases k <;> rfl
  | single k => cases k <;> rfl
  | _ => rfl

/-- To set a field leaves the others as they are. -/
theorem field?_setField_of_ne {k other : Keyword} (content : Content α k) (h : other ≠ k) :
    field? (setField facets parts content).1 (setField facets parts content).2 other
      = field? facets parts other := by
  -- keywords of one family have a table of fields; those of two families have nothing in common
  cases k with
  | text k =>
    cases other with
    | text other => cases k <;> cases other <;> first | rfl | exact absurd rfl h
    | _ => cases k <;> rfl
  | number k =>
    cases other with
    | number other => cases k <;> cases other <;> first | rfl | exact absurd rfl h
    | _ => cases k <;> rfl
  | map k =>
    cases other with
    | map other => cases k <;> cases other <;> first | rfl | exact absurd rfl h
    | _ => cases k <;> rfl
  | list k =>
    cases other with
    | list other => cases k <;> cases other <;> first | rfl | exact absurd rfl h
    | _ => cases k <;> rfl
  | single k =>
    cases other with
    | single other => cases k <;> cases other <;> first | rfl | exact absurd rfl h
    | _ => cases k <;> rfl
  | _ => cases other <;> first | rfl | exact absurd rfl h

theorem extra_setField {k : Keyword} (content : Content α k) :
    (setField facets parts content).1.extra = facets.extra := by
  cases k with
  | text k => cases k <;> rfl
  | number k => cases k <;> rfl
  | _ => rfl

theorem field?_empty (k : Keyword) : field? {} ({} : Parts α) k = none := by
  cases k with
  | text k => cases k <;> rfl
  | number k => cases k <;> rfl
  | map k => cases k <;> rfl
  | list k => cases k <;> rfl
  | single k => cases k <;> rfl
  | _ => rfl

theorem field?_extra (extra : Members Json) (k : Keyword) :
    field? { facets with extra := extra } parts k = field? facets parts k := by
  cases k with
  | text k => cases k <;> rfl
  | number k => cases k <;> rfl
  | _ => rfl

theorem field?_map (f : α → β) (k : Keyword) :
    field? facets (parts.map f) k = (field? facets parts k).map (Content.map f) := by
  cases k with
  | map k => exact Parts.map?_map f parts k
  | list k => exact Parts.list?_map f parts k
  | single k => exact Parts.single?_map f parts k
  | items => rfl
  | _ => exact Option.map_id'.symm

theorem written?_eq (parts : Parts Json) (k : Keyword) :
    facets.written? parts k = (field? facets parts k).map Content.toJson := by
  cases k with
  | items =>
    rcases h : parts.items with _ | (schemas | schema)
    · simp [Facets.written?, field?, h]
    · simp [Facets.written?, field?, h]
      rfl
    · simp [Facets.written?, field?, h]
      rfl
  | single k => exact Option.map_id'.symm
  | _ => rfl

theorem place?_eq (parts : Parts Schema) (k : Keyword) (value : Json) :
    Schema.place? k value facets parts
      = (Content.ofJson? k value).map fun content => setField facets parts content := by
  rw [Schema.place?.eq_def]
  cases k with
  | items =>
    cases value with
    | array values =>
      show Option.map _ (Schema.listOf? values)
        = Option.map _ (Option.map _ (Schema.listOf? values))
      cases Schema.listOf? values <;> rfl
    | object members => simp only [Content.ofJson?, Schema.ofJson?]; rfl
    | bool accepts => simp only [Content.ofJson?, Schema.ofJson?]; rfl
    | _ => simp only [Content.ofJson?, Schema.ofJson?]; rfl
  | required =>
    cases value with
    | array names => exact Option.map_map ..
    | _ => rfl
  | type => exact Option.map_map ..
  | single k => rfl
  | _ => cases value <;> rfl

end Fields

/-- Facets and parts are the same if all fields and the other keywords are. -/
theorem eq_of_fields {facets facets' : Facets} {parts parts' : Parts α}
    (fields : ∀ k, field? facets parts k = field? facets' parts' k)
    (extra : facets.extra = facets'.extra) : facets = facets' ∧ parts = parts' := by
  cases facets
  cases facets'
  cases parts
  cases parts'
  rw [Facets.mk.injEq, Parts.mk.injEq]
  exact
    ⟨⟨fields (.text .schemaUri), fields (.text .id), fields (.text .title),
      fields (.text .description), fields .type, fields .required, fields (.number .minProperties),
      fields (.number .maxProperties), fields (.number .minItems), fields (.number .maxItems),
      fields .uniqueItems, fields (.number .minContains), fields (.number .maxContains),
      fields (.number .minLength), fields (.number .maxLength), fields (.text .pattern),
      fields (.text .format), fields (.number .minimum), fields (.number .maximum),
      fields (.number .exclusiveMinimum), fields (.number .exclusiveMaximum),
      fields (.number .multipleOf), fields .choices, extra⟩,
     fields (.map .properties), fields (.map .patternProperties),
     fields (.single .additionalProperties), fields .items, fields (.list .prefixItems),
     fields (.list .allOf), fields (.list .anyOf), fields (.list .oneOf),
     fields (.single .negation), fields (.map .defs), fields (.map .definitions)⟩

/-- The sub-schemas in the field of a keyword. -/
def fieldParts (facets : Facets) (parts : Parts α) (k : Keyword) : List α :=
  ((field? facets parts k).map Content.toList).getD []

/-- The keywords with sub-schemas in the order of the fields. -/
def partKeywords : List Keyword :=
  [.map .properties, .map .patternProperties, .single .additionalProperties, .items,
   .list .prefixItems, .list .allOf, .list .anyOf, .list .oneOf, .single .negation, .map .defs,
   .map .definitions]

theorem toList_eq_flatMap (facets : Facets) (parts : Parts α) :
    parts.toList = partKeywords.flatMap (fieldParts facets parts) := by
  -- the fields of each family are read off its table
  have map (k : MapKeyword) :
      fieldParts facets parts (.map k) = ((parts.map? k).getD []).map Prod.snd := by
    rw [fieldParts, field?]
    cases parts.map? k <;> rfl
  have list (k : ListKeyword) : fieldParts facets parts (.list k) = (parts.list? k).getD [] := by
    rw [fieldParts, field?]
    cases parts.list? k <;> rfl
  have single (k : SingleKeyword) :
      fieldParts facets parts (.single k) = (parts.single? k).toList := by
    rw [fieldParts, field?]
    cases parts.single? k <;> rfl
  have items : fieldParts facets parts .items = (parts.items.map Items.toList).getD [] := rfl
  simp only [partKeywords, List.flatMap_cons, List.flatMap_nil, map, list, single, items]
  simp only [Parts.map?, Parts.list?, Parts.single?, Parts.toList, List.append_assoc,
    List.append_nil]

/-- The parts are what the fields hold. -/
theorem mem_toList_iff (facets : Facets) {parts : Parts α} {part : α} :
    part ∈ parts.toList ↔ ∃ k, ∃ content : Content α k,
      field? facets parts k = some content ∧ part ∈ content.toList := by
  rw [toList_eq_flatMap facets parts, List.mem_flatMap]
  constructor
  · rintro ⟨k, _, hpart⟩
    cases hfield : field? facets parts k with
    | none => simp [fieldParts, hfield] at hpart
    | some content => exact ⟨k, content, hfield, by simpa [fieldParts, hfield] using hpart⟩
  · rintro ⟨k, content, hfield, hpart⟩
    refine ⟨k, ?_, by simpa [fieldParts, hfield] using hpart⟩
    cases k with
    | map k => cases k <;> decide
    | list k => cases k <;> decide
    | single k => cases k <;> decide
    | items => decide
    | _ => cases hpart

end JsonShape
