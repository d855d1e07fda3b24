import JsonShape.Inference.Document
import JsonShape.Proofs.Elements
import JsonShape.Proofs.Writing

/-!
# What a document keeps of a schema

A document copies some keywords of the schema of an object or array and puts its heading before
them. Other keywords would be lost; but no such schema has any, and none has a heading of its own.
The schema of any other value is kept whole below the property `value`.

Main statement: by `Inferrer.document_lossless` the document of an object or array is, without its
heading, the schema of that value, and other documents have the schema as their only property, so
whatever is written for the schema is written for the document.
-/

namespace JsonShape

open Members

/-- Whether a value is an object or an array. -/
def Json.isContainer : Json → Bool
  | .object _ | .array _ => true
  | _ => false

/-- The facets without those that head a document. -/
def Facets.withoutHeading (facets : Facets) : Facets :=
  { facets with schemaUri := none, title := none, description := none }

namespace Schema

/-- The schema without what heads a document. -/
def withoutHeading : Schema → Schema
  | boolean accepts => boolean accepts
  | object facets parts => object facets.withoutHeading parts

/-- The schema of objects that have one property, `value`. -/
def wrapped (root : Schema) : Schema :=
  object { type := some (.single .object), required := some ["value"] }
    { properties := some [("value", root)] }

/-- The members of a written schema, reduced to the last of each name. -/
def writtenMembers : Schema → Members Json
  | boolean _ => []
  | object facets parts => Parts.mapMembers Json.collapse (facets.members (parts.map written))

theorem toJson_of_extra_nil {facets : Facets} {parts : Parts Schema} (h : facets.extra = []) :
    (object facets parts).toJson = .object (object facets parts).writtenMembers := by
  -- only the other keywords could repeat the name of a field, and there are none
  have hnames : (names (object facets parts).writtenMembers).Nodup := by
    rw [writtenMembers, names_mapMembers]
    exact Facets.nodup_members (by simp [h]) (Facets.undoubled_of_extra_nil h _)
  rw [toJson, written_object, Json.collapse, Json.collapseMembers_eq]
  exact congrArg Json.object (ofEntries_of_nodup hnames)

/-- What is written without a heading is written with it. -/
theorem writtenMembers_withoutHeading_subset (schema : Schema) :
    schema.withoutHeading.writtenMembers ⊆ schema.writtenMembers := by
  cases schema with
  | boolean accepts => exact List.Subset.refl _
  | object facets parts =>
    refine List.map_subset _ fun entry hentry => List.mem_append.mpr ?_
    refine (List.mem_append.mp hentry).imp_left fun hfield => ?_
    obtain ⟨name, value⟩ := entry
    obtain ⟨keyword, rfl, hwritten⟩ := Facets.mem_writtenFields.mp hfield
    refine Facets.mem_writtenFields.mpr ⟨keyword, rfl, ?_⟩
    rw [← hwritten]
    -- the heading is all that differs, and without it none of its keywords is written
    cases keyword with
    | text keyword => cases keyword <;> first | rfl | cases hwritten
    | number keyword => cases keyword <;> rfl
    | _ => rfl

/-- The property of a wrapped schema is written whole. -/
theorem properties_mem_wrapped (root : Schema) :
    ("properties", .object [("value", root.toJson)]) ∈ (wrapped root).writtenMembers := by
  refine mem_mapMembers.mpr ⟨.object [("value", root.written)], List.mem_append_left _ ?_, rfl⟩
  exact Facets.mem_writtenFields.mpr ⟨.map .properties, rfl, rfl⟩

end Schema

namespace Inferrer

open Schema

variable {inferrer : Inferrer} {value : Json}

/-- All keywords of an inferred schema have a field. -/
theorem exists_infer_eq (inferrer : Inferrer) (value : Json) :
    ∃ facets parts, inferrer.infer value = .object facets parts ∧ facets.extra = [] := by
  cases value with
  | array elements =>
    rw [infer]
    cases inferAll inferrer elements <;> exact ⟨_, _, rfl, rfl⟩
  | _ => exact ⟨_, _, rfl, rfl⟩

/-- All keywords of a document have a field. -/
theorem exists_documentOf_eq (config : InferenceConfig) (root : Schema) :
    ∃ facets parts, documentOf config root = .object facets parts ∧ facets.extra = [] := by
  unfold documentOf
  dsimp only
  split_ifs <;> exact ⟨_, _, rfl, rfl⟩

theorem withoutHeading_document_of_isContainer (h : value.isContainer = true) :
    (inferrer.document value).withoutHeading = inferrer.infer value := by
  cases value with
  | object members => rfl
  | array elements =>
    rw [document, infer]
    cases inferAll inferrer elements <;> rfl
  | _ => cases h

theorem withoutHeading_document_of_not_isContainer (h : value.isContainer = false) :
    (inferrer.document value).withoutHeading = wrapped (inferrer.infer value) := by
  cases value with
  | object members => cases h
  | array elements => cases h
  | number number =>
    rw [document, infer, ofNumber]
    cases number.isWhole <;> rfl
  | _ => rfl

/-- The document of an object or array is its schema but for the heading; that of any other value
has this schema as its only property. All members of the written schema are written in the
document. -/
theorem document_lossless (inferrer : Inferrer) (value : Json) :
    (inferrer.document value).withoutHeading
        = (if value.isContainer then inferrer.infer value else wrapped (inferrer.infer value))
      ∧ ∃ root members : Members Json, (inferrer.infer value).toJson = .object root
        ∧ (inferrer.document value).toJson = .object members
        ∧ if value.isContainer then root ⊆ members
          else ("properties", .object [("value", .object root)]) ∈ members := by
  have hdocument : (inferrer.document value).withoutHeading
      = if value.isContainer then inferrer.infer value else wrapped (inferrer.infer value) := by
    split
    · next hcontainer => exact withoutHeading_document_of_isContainer hcontainer
    · next hcontainer =>
      exact withoutHeading_document_of_not_isContainer (Bool.eq_false_iff.mpr hcontainer)
  have hroot : (inferrer.infer value).toJson = .object (inferrer.infer value).writtenMembers := by
    obtain ⟨facets, parts, heq, hextra⟩ := exists_infer_eq inferrer value
    rw [heq, toJson_of_extra_nil hextra]
  have hmembers : (inferrer.document value).toJson
      = .object (inferrer.document value).writtenMembers := by
    obtain ⟨facets, parts, heq, hextra⟩ :=
      exists_documentOf_eq inferrer.config (inferrer.infer value).asObject
    rw [document, heq, toJson_of_extra_nil hextra]
  -- without its heading the document is the schema or wraps it; the heading only adds members
  have hsubset := writtenMembers_withoutHeading_subset (inferrer.document value)
  refine ⟨hdocument, _, _, hroot, hmembers, ?_⟩
  rw [hdocument] at hsubset
  split
  · next hcontainer => rwa [if_pos hcontainer] at hsubset
  · next hcontainer =>
    rw [if_neg hcontainer] at hsubset
    rw [← hroot]
    exact hsubset (properties_mem_wrapped (inferrer.infer value))

end Inferrer

end JsonShape
