import JsonShape.Proofs.ChildKeys
import JsonShape.Proofs.Fields

/-!
# What a schema is written as

The written members of a schema are those of its fields, in which no name is repeated, and the other
keywords. A name can stand in both groups; the value among the other keywords is then the one that
counts. If no name does, the schema is written without loss: the written object has the written
value of each keyword under its name (`Schema.toJson_of_undoubled`).
-/

namespace JsonShape

open Members

namespace Json

theorem collapseElements_eq (elements : List Json) :
    collapseElements elements = elements.map collapse := by
  induction elements with
  | nil => rfl
  | cons element rest ih => rw [collapseElements, ih, List.map_cons]

theorem collapseMembers_eq (members : Members Json) :
    collapseMembers members = Parts.mapMembers collapse members := by
  induction members with
  | nil => rfl
  | cons member rest ih =>
    obtain ⟨name, value⟩ := member
    rw [collapseMembers, ih]
    rfl

theorem collapse_array (elements : List Json) :
    collapse (.array elements) = .array (elements.map collapse) := by
  rw [collapse, collapseElements_eq]

theorem collapse_object {members : Members Json} (nodup : (names members).Nodup) :
    collapse (.object members) = .object (Parts.mapMembers collapse members) := by
  rw [collapse, collapseMembers_eq, ofEntries_of_nodup]
  rwa [names_mapMembers]

theorem collapse_of_isListable {value : Json} (h : (value.isString || value.isNumber) = true) :
    collapse value = value := by
  cases value with
  | string _ => rfl
  | number _ => rfl
  | _ => cases h

end Json

/-! ### Contents without repeated names -/

namespace Content

/-- No name is repeated in what a content is written as, the sub-schemas apart. -/
def Unrepeated {α : Type} {k : Keyword} (content : Content α k) : Prop :=
  match k, content with
  | .map _, schemas => (names schemas).Nodup
  | .type, spec => (TypeSpec.toJson spec).collapse = TypeSpec.toJson spec
  | .choices, values => ∀ value ∈ values, Json.collapse value = value
  | _, _ => True

/-- A content is written as a value without repeated names if its sub-schemas are. -/
theorem collapse_written {k : Keyword} {content : Content Schema k} (h : content.Unrepeated) :
    (content.map Schema.written).toJson.collapse = (content.map Schema.toJson).toJson := by
  cases k with
  | map k =>
    show Json.collapse (.object (Parts.mapMembers _ content)) = .object (Parts.mapMembers _ content)
    rw [Json.collapse_object (by rwa [names_mapMembers])]
    simp [Parts.mapMembers, Schema.toJson, Function.comp_def]
  | list k =>
    show Json.collapse (.array (List.map _ content)) = .array (List.map _ content)
    rw [Json.collapse_array, List.map_map]
    rfl
  | type => exact h
  | required =>
    show Json.collapse (.array (List.map .string content)) = .array (List.map .string content)
    rw [Json.collapse_array, List.map_map]
    rfl
  | choices =>
    show Json.collapse (.array content) = .array content
    rw [Json.collapse_array, List.map_congr_left h, List.map_id']
  | items =>
    cases content with
    | tuple schemas =>
      show Json.collapse (.array (List.map _ schemas)) = .array (List.map _ schemas)
      rw [Json.collapse_array, List.map_map]
      rfl
    | single schema => rfl
  | _ => rfl

end Content

namespace Facets

variable {facets : Facets}

/-- No name is repeated in what the facets and parts are written as, unless it stands both in its
field and among the other keywords. -/
structure Unrepeated {α : Type} (facets : Facets) (parts : Parts α) : Prop where
  fields : ∀ {k} {content : Content α k}, field? facets parts k = some content → content.Unrepeated
  names : (names facets.extra).Nodup
  extra : ∀ member ∈ facets.extra, member.2.collapse = member.2

/-- No keyword stands both in its field and among the other keywords. -/
def Undoubled {α : Type} (facets : Facets) (parts : Parts α) : Prop :=
  ∀ k : Keyword, k.name ∈ names facets.extra → field? facets parts k = none

/-- The members that are written for the fields. -/
def writtenFields (facets : Facets) (parts : Parts Json) : Members Json :=
  Keyword.all.filterMap fun keyword => (facets.written? parts keyword).map (keyword.name, ·)

theorem mem_writtenFields {parts : Parts Json} {name : String} {value : Json} :
    (name, value) ∈ facets.writtenFields parts ↔
      ∃ keyword : Keyword, keyword.name = name ∧ facets.written? parts keyword = some value := by
  rw [writtenFields, List.mem_filterMap]
  constructor
  · rintro ⟨keyword, _, h⟩
    obtain ⟨written, hwritten, heq⟩ := Option.map_eq_some_iff.mp h
    cases heq
    exact ⟨keyword, rfl, hwritten⟩
  · rintro ⟨keyword, rfl, h⟩
    exact ⟨keyword, Keyword.mem_all keyword, by rw [h]; rfl⟩

theorem nodup_writtenFields (facets : Facets) (parts : Parts Json) :
    (Members.names (facets.writtenFields parts)).Nodup := by
  refine List.Nodup.sublist ?_ Keyword.nodup_names
  rw [writtenFields]
  generalize Keyword.all = keywords
  induction keywords with
  | nil => exact List.Sublist.refl _
  | cons keyword rest ih =>
    rw [List.filterMap_cons, List.map_cons]
    split
    · exact ih.cons _
    · next entry hentry =>
      obtain ⟨value, _, rfl⟩ := Option.map_eq_some_iff.mp hentry
      exact ih.cons_cons _

/-- The members of the fields are found by their keywords. -/
theorem lookup_writtenFields (facets : Facets) (parts : Parts Json) (keyword : Keyword) :
    (facets.writtenFields parts).lookup keyword.name = facets.written? parts keyword := by
  -- names are not repeated, so what is written under a keyword is what is found, and nothing if
  -- nothing is
  cases h : facets.written? parts keyword with
  | some value =>
    exact lookup_of_mem (nodup_writtenFields facets parts) (mem_writtenFields.mpr ⟨keyword, rfl, h⟩)
  | none =>
    rw [lookup_eq_none]
    intro hname
    obtain ⟨⟨name, value⟩, hmem, rfl⟩ := List.mem_map.mp hname
    obtain ⟨found, hname', hfound⟩ := mem_writtenFields.mp hmem
    -- another keyword does not have this name
    rw [Keyword.name_injective hname', h] at hfound
    cases hfound

theorem nodup_members {parts : Parts Json} (nodup : (Members.names facets.extra).Nodup)
    (undoubled : facets.Undoubled parts) : (Members.names (facets.members parts)).Nodup := by
  show (Members.names (facets.writtenFields parts ++ facets.extra)).Nodup
  rw [names_append, List.nodup_append]
  refine ⟨nodup_writtenFields facets parts, nodup, ?_⟩
  rintro name hfield other hextra rfl
  obtain ⟨⟨name, value⟩, hmem, rfl⟩ := List.mem_map.mp hfield
  obtain ⟨keyword, rfl, hwritten⟩ := mem_writtenFields.mp hmem
  rw [written?_eq, undoubled keyword hextra] at hwritten
  cases hwritten

theorem undoubled_of_extra_nil {α : Type} (h : facets.extra = []) (parts : Parts α) :
    facets.Undoubled parts := by
  simp [Undoubled, h]

theorem undoubled_map {parts : Parts Schema} {f : Schema → Json} (h : facets.Undoubled parts) :
    facets.Undoubled (parts.map f) := by
  intro keyword hname
  rw [field?_map, h keyword hname]
  rfl

end Facets

namespace Schema

variable {facets : Facets} {parts : Parts Schema}

theorem written_object (facets : Facets) (parts : Parts Schema) :
    (object facets parts).written = .object (facets.members (parts.map written)) := by
  unfold written
  rw [fold_object]

theorem collapse_members (unrepeated : facets.Unrepeated parts) :
    Parts.mapMembers Json.collapse (facets.members (parts.map written))
      = facets.members (parts.map toJson) := by
  have hextra : Parts.mapMembers Json.collapse facets.extra = facets.extra := by
    have hall : ∀ member ∈ facets.extra, (member.1, member.2.collapse) = member :=
      fun member hmember => by rw [unrepeated.extra member hmember]
    exact (List.map_congr_left hall).trans (List.map_id' _)
  show Parts.mapMembers Json.collapse (facets.writtenFields _ ++ facets.extra)
    = facets.writtenFields _ ++ facets.extra
  rw [Parts.mapMembers, List.map_append]
  refine congrArg₂ _ ?_ hextra
  -- both lists run over all keywords, so they are compared keyword by keyword
  rw [Facets.writtenFields, Facets.writtenFields, List.map_filterMap]
  refine List.filterMap_congr fun keyword _ => ?_
  rw [written?_eq, written?_eq, field?_map, field?_map]
  cases hfield : field? facets parts keyword with
  | none => rfl
  | some content =>
    have hcontent := Content.collapse_written (unrepeated.fields hfield)
    simp only [Option.map_some, hcontent]

/-- The written form of a schema, from the written forms of its parts. -/
theorem toJson_of_unrepeated (unrepeated : facets.Unrepeated parts) :
    (object facets parts).toJson = .object (ofEntries (facets.members (parts.map toJson))) := by
  rw [toJson, written_object, Json.collapse, Json.collapseMembers_eq, collapse_members unrepeated]

/-- What stands once is written as it is. -/
theorem toJson_of_undoubled (unrepeated : facets.Unrepeated parts)
    (undoubled : facets.Undoubled parts) :
    (object facets parts).toJson = .object (facets.members (parts.map toJson)) := by
  rw [toJson_of_unrepeated unrepeated, ofEntries_of_nodup]
  exact Facets.nodup_members unrepeated.names (Facets.undoubled_map undoubled)

end Schema

/-! ### Schemas without other keywords -/

namespace Facets

variable {facets : Facets} {parts : Parts Schema}

/-- Nothing is lost when the facets are written as a value without repeated names. -/
structure Lossless (facets : Facets) : Prop where
  type : ∀ spec, facets.type = some spec → spec.toJson.collapse = spec.toJson
  choices : ∀ values, facets.choices = some values → ∀ value ∈ values, value.collapse = value
  extra : facets.extra = []

theorem Lossless.unrepeated (lossless : facets.Lossless) (unique : parts.UniqueNames) :
    facets.Unrepeated parts where
  fields := by
    intro k content h
    cases k with
    | map k =>
      have hnames := unique k
      rw [show parts.map? k = some content from h] at hnames
      exact hnames
    | type => exact lossless.type content h
    | choices => exact lossless.choices content h
    | _ => trivial
  names := by simp [lossless.extra]
  extra := by simp [lossless.extra]

theorem Lossless.undoubled {α : Type} (lossless : facets.Lossless) (parts : Parts α) :
    facets.Undoubled parts :=
  undoubled_of_extra_nil lossless.extra parts

theorem members_of_lossless (lossless : facets.Lossless) (parts : Parts Json) :
    facets.members parts = facets.writtenFields parts := by
  show facets.writtenFields parts ++ facets.extra = _
  rw [lossless.extra, List.append_nil]

/-- A member of a written schema is the written value of a keyword. -/
theorem mem_members (lossless : facets.Lossless) {parts : Parts Json} {name : String}
    {value : Json} : (name, value) ∈ facets.members parts ↔
      ∃ keyword : Keyword, keyword.name = name ∧ facets.written? parts keyword = some value := by
  rw [members_of_lossless lossless]
  exact mem_writtenFields

/-- The members of a written schema are found by their keywords. -/
theorem lookup_members (lossless : facets.Lossless) (parts : Parts Json) (keyword : Keyword) :
    (facets.members parts).lookup keyword.name = facets.written? parts keyword := by
  rw [members_of_lossless lossless]
  exact lookup_writtenFields facets parts keyword

end Facets

theorem Schema.toJson_object {facets : Facets} {parts : Parts Schema} (lossless : facets.Lossless)
    (unique : parts.UniqueNames) :
    (object facets parts).toJson = .object (facets.members (parts.map toJson)) :=
  toJson_of_undoubled (lossless.unrepeated unique) (lossless.undoubled parts)

end JsonShape
