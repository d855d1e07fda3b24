import JsonShape.Proofs.Merging

/-!
# Types of inferred schemas

Every inferred schema has one type, which the value alone decides (`Inferrer.typeOf_infer`). It also
decides in which of three ways the elements of an array get one schema (`Inferrer.elements_cases`):
objects get theirs from all of them, elements of another type get that of the first, and elements of
different types get a choice (`Inferrer.sharedSchema_objects`, `Inferrer.sharedSchema_same` and
`Inferrer.sharedSchema_mixed`).
-/

namespace JsonShape

/-- The type that inference gives to a number. -/
def Number.kind (number : Number) : TypeName := if number.isWhole then .integer else .number

theorem Number.kind_ne_object (number : Number) : number.kind ≠ .object := by
  unfold kind
  split <;> exact TypeName.noConfusion

/-- The type that inference gives to a value. -/
def Json.kind : Json → TypeName
  | .null => .null
  | .bool _ => .boolean
  | .number value => value.kind
  | .string _ => .string
  | .array _ => .array
  | .object _ => .object

theorem Json.hasValue_kind (value : Json) : value.kind.hasValue value = true := by
  cases value with
  | number number =>
    show number.kind.hasValue (.number number) = true
    unfold Number.kind
    split
    · next h => exact h
    · rfl
  | _ => rfl

theorem Json.exists_objects {elements : List Json}
    (h : ∀ element ∈ elements, element.kind = .object) :
    ∃ objects : List (Members Json), elements = objects.map .object := by
  induction elements with
  | nil => exact ⟨[], rfl⟩
  | cons element rest ih =>
    rw [List.forall_mem_cons] at h
    obtain ⟨objects, rfl⟩ := ih h.2
    cases element with
    | object members => exact ⟨members :: objects, rfl⟩
    | number number => exact absurd h.1 number.kind_ne_object
    | _ => cases h.1

namespace Inferrer

open Members Schema

variable (inferrer : Inferrer)

/-! ### Inferred schemas -/

theorem inferAll_eq (elements : List Json) :
    inferAll inferrer elements = elements.map inferrer.infer := by
  induction elements with
  | nil => rfl
  | cons element rest ih => rw [inferAll, ih, List.map_cons]

theorem inferMembers_eq (members : Members Json) :
    inferMembers inferrer members = Parts.mapMembers inferrer.infer members := by
  induction members with
  | nil => rfl
  | cons member rest ih =>
    obtain ⟨name, value⟩ := member
    rw [inferMembers, ih]
    rfl

theorem infer_object (members : Members Json) :
    inferrer.infer (.object members) = objectSchema (Parts.mapMembers inferrer.infer members)
      (names (members.filter fun member => !member.2.isNull)) := by
  rw [infer, inferMembers_eq]
  rfl

theorem propertiesOf_infer (members : Members Json) :
    propertiesOf (inferrer.infer (.object members)) = Parts.mapMembers inferrer.infer members := by
  rw [infer_object]
  rfl

theorem plain_infer (value : Json) : (inferrer.infer value).Plain := by
  cases value with
  | array elements =>
    rw [infer]
    cases inferAll inferrer elements <;> rfl
  | _ => rfl

theorem typeOf_infer (value : Json) :
    typeOf (inferrer.infer value) = some (.single value.kind) := by
  cases value with
  | array elements =>
    rw [infer]
    cases inferAll inferrer elements <;> rfl
  | _ => rfl

theorem isType_infer (value : Json) (type : TypeName) :
    (inferrer.infer value).isType type = (value.kind == type) := by
  cases value with
  | array elements =>
    rw [infer]
    cases inferAll inferrer elements <;> rfl
  | _ => rfl

/-! ### The schema of the elements of an array -/

variable {first : Json} {rest : List Json}

/-- The elements of an array are objects, or of one other type, or of different types. -/
theorem elements_cases (first : Json) (rest : List Json) :
    (∃ objects : List (Members Json), first :: rest = objects.map Json.object)
      ∨ ((∀ element ∈ first :: rest, element.kind = first.kind) ∧ first.kind ≠ .object)
      ∨ ∃ element ∈ first :: rest, element.kind ≠ first.kind := by
  -- the types of the schemas are those of the elements, so the values alone decide
  by_cases hsame : ∀ element ∈ first :: rest, element.kind = first.kind
  · by_cases hobject : first.kind = .object
    · exact .inl
        (Json.exists_objects fun element helement => (hsame element helement).trans hobject)
    · exact .inr (.inl ⟨hsame, hobject⟩)
  · exact .inr (.inr (by simpa using hsame))

theorem sameTypes_iff : ((inferrer.infer first :: rest.map inferrer.infer).all fun schema =>
      relateOption TypeSpec.same (typeOf schema) (typeOf (inferrer.infer first))) = true ↔
    ∀ element ∈ first :: rest, element.kind = first.kind := by
  rw [← List.map_cons, List.all_map, List.all_eq_true]
  refine forall₂_congr fun element _ => ?_
  show relateOption TypeSpec.same (typeOf (inferrer.infer element)) _ = true ↔ _
  rw [typeOf_infer, typeOf_infer]
  exact beq_iff_eq

/-- The schema of the elements of an array that is not empty. -/
def sharedSchema (first : Json) (rest : List Json) : Schema :=
  inferrer.elementSchema (inferrer.infer first) (rest.map inferrer.infer) (first :: rest)

theorem infer_cons (first : Json) (rest : List Json) :
    inferrer.infer (.array (first :: rest)) =
      .object { type := some (.single .array), minItems := some 0 }
        { items := some (.single (inferrer.sharedSchema first rest)) } := by
  rw [infer, inferAll_eq]
  rfl

theorem sharedSchema_objects {objects : List (Members Json)}
    (hobjects : first :: rest = objects.map Json.object) :
    inferrer.sharedSchema first rest =
      inferrer.unify ((objects.map Json.object).map inferrer.infer) (objects.map Json.object) := by
  have hkind : ∀ element ∈ first :: rest, element.kind = .object := by
    rw [hobjects, List.forall_mem_map]
    exact fun _ _ => rfl
  have hfirst := hkind first List.mem_cons_self
  have hsame := (sameTypes_iff inferrer).mpr fun element helement =>
    (hkind element helement).trans hfirst.symm
  have hobject : (inferrer.infer first).isType .object = true := by
    rw [isType_infer, hfirst]
    rfl
  unfold sharedSchema elementSchema
  dsimp only
  rw [if_pos hsame, if_pos hobject, ← List.map_cons, hobjects]

theorem sharedSchema_same (hsame : ∀ element ∈ first :: rest, element.kind = first.kind)
    (hobject : first.kind ≠ .object) : inferrer.sharedSchema first rest = inferrer.infer first := by
  have hisType : ¬ (inferrer.infer first).isType .object = true := by
    rw [isType_infer, beq_iff_eq]
    exact hobject
  unfold sharedSchema elementSchema
  dsimp only
  rw [if_pos ((sameTypes_iff inferrer).mpr hsame), if_neg hisType]

theorem sharedSchema_mixed (hmixed : ∃ element ∈ first :: rest, element.kind ≠ first.kind) :
    inferrer.sharedSchema first rest = choice (dedup ((first :: rest).map inferrer.infer)) := by
  -- only the first condition is asked, and it fails
  have hdiffer : ¬ ∀ element ∈ first :: rest, element.kind = first.kind := by
    obtain ⟨element, helement, hne⟩ := hmixed
    exact fun h => hne (h element helement)
  unfold sharedSchema elementSchema
  dsimp only
  rw [if_neg (mt (sameTypes_iff inferrer).mp hdiffer)]
  rfl

end Inferrer

end JsonShape
