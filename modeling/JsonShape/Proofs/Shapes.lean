import JsonShape.Proofs.Refining
import JsonShape.Proofs.InferredForm
import Mathlib.Data.List.Forall2

/-!
# What inference sees of a value

Inference asks for the type of a value, for the format of a string and whether a number is whole;
only refinements look at the values themselves. Few samples are not listed, and what has no name of
a timestamp is none. Coordinates are told by their length, which a value shows from outside.

Main statement: `Inferrer.infer_eq_of_shape`, two values of one shape have the same schema, whenever
they are inferred, if all arrays are too short for listed values and no name is one for timestamps.
-/

namespace JsonShape

open Members

/-- A value without its booleans, numbers and texts. -/
inductive Shape
  | null
  | bool
  | number (whole : Bool)
  | string (format : Option StringFormat)
  | array (elements : List Shape)
  | object (members : List (String × Shape))

namespace Json

mutual

/-- The shape of a value. -/
def shape : Json → Shape
  | null => .null
  | bool _ => .bool
  | number value => .number value.isWhole
  | string text => .string (StringFormat.detect text)
  | array elements => .array (shapes elements)
  | object members => .object (memberShapes members)

/-- The shapes of elements. -/
def shapes : List Json → List Shape
  | [] => []
  | value :: rest => shape value :: shapes rest

/-- The shapes of members under their names. -/
def memberShapes : List (String × Json) → List (String × Shape)
  | [] => []
  | (name, value) :: rest => (name, shape value) :: memberShapes rest

end

theorem shapes_eq (elements : List Json) : shapes elements = elements.map shape := by
  induction elements with
  | nil => rw [shapes, List.map_nil]
  | cons value rest ih => rw [shapes, ih, List.map_cons]

theorem memberShapes_eq (members : Members Json) :
    memberShapes members = Parts.mapMembers shape members := by
  induction members with
  | nil => rw [memberShapes, Parts.mapMembers, List.map_nil]
  | cons member rest ih =>
    obtain ⟨name, value⟩ := member
    rw [memberShapes, ih, Parts.mapMembers, Parts.mapMembers, List.map_cons]

theorem shape_array (elements : List Json) :
    (array elements).shape = .array (elements.map shape) := by
  rw [shape, shapes_eq]

theorem shape_object (members : Members Json) :
    (object members).shape = .object (Parts.mapMembers shape members) := by
  rw [shape, memberShapes_eq]

/-! ### What depends on the shape only -/

variable {v w : Json} {values others : List Json}

theorem isNumber_eq_of_shape (h : v.shape = w.shape) : v.isNumber = w.isNumber := by
  cases v <;> cases w <;> first | rfl | simp [shape] at h

theorem isNull_eq_of_shape (h : v.shape = w.shape) : v.isNull = w.isNull := by
  cases v <;> cases w <;> first | rfl | simp [shape] at h

/-- What depends on the shape of a value only is the same in lists of the same shapes. -/
theorem map_eq_of_shape {α : Type} {f g : Json → α} (h : values.map shape = others.map shape)
    (hfg : ∀ v ∈ values, ∀ w, v.shape = w.shape → f v = g w) : values.map f = others.map g := by
  induction values generalizing others with
  | nil =>
    rw [List.map_eq_nil_iff.mp h.symm]
    rfl
  | cons v rest ih =>
    obtain ⟨w, tail, rfl, hhead, htail⟩ := List.map_eq_cons_iff.mp h.symm
    rw [List.forall_mem_cons] at hfg
    rw [List.map_cons, List.map_cons, hfg.1 w hhead.symm, ih htail.symm hfg.2]

theorem mapMembers_eq_of_shape {α : Type} {f g : Json → α} {members others : Members Json}
    (h : Parts.mapMembers shape members = Parts.mapMembers shape others)
    (hfg : ∀ member ∈ members, ∀ w : Json, member.2.shape = w.shape → f member.2 = g w) :
    Parts.mapMembers f members = Parts.mapMembers g others := by
  induction members generalizing others with
  | nil =>
    rw [List.map_eq_nil_iff.mp h.symm]
    rfl
  | cons member rest ih =>
    obtain ⟨other, tail, rfl, hhead, htail⟩ := List.map_eq_cons_iff.mp h.symm
    obtain ⟨hname, hshape⟩ := Prod.mk.inj hhead
    rw [List.forall_mem_cons] at hfg
    show (member.1, f member.2) :: Parts.mapMembers f rest
      = (other.1, g other.2) :: Parts.mapMembers g tail
    rw [hname, hfg.1 other.2 hshape.symm, ih htail.symm hfg.2]

/-- The shape of a member depends on the shape of the object only. -/
theorem shape_member?_eq_of_shape (h : v.shape = w.shape) (name : String) :
    (v.member? name).map shape = (w.member? name).map shape := by
  cases v with
  | object members =>
    cases w with
    | object others =>
      rw [shape_object, shape_object, Shape.object.injEq] at h
      show (members.lookup name).map shape = (others.lookup name).map shape
      rw [← lookup_mapMembers, ← lookup_mapMembers, h]
    | _ => simp [shape] at h
  | _ => cases w <;> first | rfl | simp [shape] at h

end Json

namespace Refinement

open Json

variable {v w : Json} {values others samples samples' : List Json}

theorem tupleLength?_eq_of_shape (h : v.shape = w.shape) : tupleLength? v = tupleLength? w := by
  cases v with
  | array elements =>
    cases w with
    | array others =>
      rw [shape_array, shape_array, Shape.array.injEq] at h
      have hlength : elements.length = others.length := by simpa using congrArg List.length h
      have hnumber : elements.all isNumber = others.all isNumber := by
        have hmap := map_eq_of_shape h fun _ _ _ => isNumber_eq_of_shape
        simpa [List.all_map, Function.comp_def] using congrArg (List.all · id) hmap
      simp only [tupleLength?, hlength, hnumber]
    | _ => simp [shape] at h
  | _ => cases w <;> first | rfl | simp [shape] at h

theorem commonLength?_eq_of_shape (h : values.map shape = others.map shape) :
    commonLength? values = commonLength? others := by
  have hlengths := map_eq_of_shape h fun _ _ _ => tupleLength?_eq_of_shape
  cases values with
  | nil => rw [List.map_eq_nil_iff.mp h.symm]
  | cons v rest =>
    obtain ⟨w, tail, rfl, -, -⟩ := List.map_eq_cons_iff.mp h.symm
    obtain ⟨hhead, htail⟩ := List.cons_eq_cons.mp hlengths
    have hall (length : Nat) : rest.all (fun value => tupleLength? value == some length)
        = tail.all fun value => tupleLength? value == some length := by
      have hmap := congrArg (List.all · fun found => found == some length) htail
      simpa [List.all_map, Function.comp_def] using hmap
    simp only [commonLength?, hhead, hall]

theorem shape_observed_eq_of_shape (h : samples.map shape = samples'.map shape)
    (property : String) :
    (observed property samples).map shape = (observed property samples').map shape := by
  have hmap := map_eq_of_shape h fun _ _ _ hvw => shape_member?_eq_of_shape hvw property
  have hobserved (samples : List Json) : (observed property samples).map shape
      = (samples.map fun sample => (sample.member? property).map shape).filterMap id := by
    rw [observed, List.map_filterMap, List.filterMap_map]
    rfl
  rw [hobserved, hobserved, hmap]

end Refinement

namespace Inferrer

open Json Refinement

variable {inferrer inferrer' : Inferrer} {config : InferenceConfig} {clockMs clockMs' : Int}

/-! ### Refinements of short samples -/

/-- Two inferrers differ only in where timestamps begin. -/
structure Twins (times : Regex) (limit : Nat) (inferrer inferrer' : Inferrer) : Prop where
  formats : inferrer.config.detectFormats = inferrer'.config.detectFormats
  refinements : ∃ maxValues maxRatio places floor floor',
    inferrer.refinements
        = [.listing limit maxValues maxRatio, .coordinates places, .timestamps times floor]
      ∧ inferrer'.refinements
        = [.listing limit maxValues maxRatio, .coordinates places, .timestamps times floor']

/-- The same settings make twins, whatever the clock says. -/
theorem exists_twins (hconfig : ofConfig config clockMs = .ok inferrer)
    (hconfig' : ofConfig config clockMs' = .ok inferrer') :
    ∃ times, Regex.compile config.timestampPattern = .ok times
      ∧ Twins times config.enumMinItems inferrer inferrer' := by
  unfold ofConfig at hconfig hconfig'
  dsimp only at hconfig hconfig'
  cases hplaces : Regex.compile config.coordinatePattern with
  | error fault =>
    rw [hplaces] at hconfig
    cases hconfig
  | ok places =>
    cases htimes : Regex.compile config.timestampPattern with
    | error fault =>
      rw [hplaces, htimes] at hconfig
      cases hconfig
    | ok times =>
      rw [hplaces, htimes] at hconfig hconfig'
      cases hconfig
      cases hconfig'
      exact ⟨times, rfl, rfl, _, _, _, _, _, rfl, rfl⟩

section Twins

variable {times : Regex} {limit : Nat} {samples samples' : List Json}

/-- Short samples of one shape refine a schema alike under a name that is none for timestamps. -/
theorem Twins.refine_eq (twins : Twins times limit inferrer inferrer')
    (h : samples.map shape = samples'.map shape) (short : samples.length < limit) {name : String}
    (untimed : times.isFoundIn name = false) (schema : Schema) :
    inferrer.refine samples name schema = inferrer'.refine samples' name schema := by
  obtain ⟨maxValues, maxRatio, places, floor, floor', hown, hother⟩ := twins.refinements
  have short' : samples'.length < limit := by
    have hlength := congrArg List.length h
    rw [List.length_map, List.length_map] at hlength
    omega
  -- too few samples are not listed, the name is none for timestamps, and coordinates are told by
  -- shape
  have hlisting {samples : List Json} (short : samples.length < limit) :
      (listing limit maxValues maxRatio).refine? name schema samples = none := if_pos short
  have hcoordinates (schema : Schema) : (coordinates places).refine? name schema samples
      = (coordinates places).refine? name schema samples' := by
    unfold coordinates
    dsimp only
    rw [commonLength?_eq_of_shape (shape_observed_eq_of_shape h name)]
  have htimestamps (floor : Int) (schema : Schema) (samples : List Json) :
      (timestamps times floor).refine? name schema samples = none := by
    unfold timestamps
    dsimp only
    rw [untimed, Bool.false_and, Bool.false_and, if_neg Bool.false_ne_true]
  unfold refine
  rw [hown, hother]
  simp only [List.foldl_cons, List.foldl_nil, hlisting short, hlisting short', hcoordinates,
    htimestamps]

/-! ### The names of merged properties -/

theorem mem_names_mergeProperties {seen properties : Members Schema} {name : String}
    (h : name ∈ names (mergeProperties seen properties)) :
    name ∈ names seen ∨ name ∈ names properties := by
  induction properties generalizing seen with
  | nil => exact .inl h
  | cons entry rest ih =>
    rcases ih h with hseen | hrest
    · rcases mem_names_insert.mp hseen with hold | rfl
      · exact .inl hold
      · exact .inr List.mem_cons_self
    · exact .inr (List.mem_cons_of_mem _ hrest)

/-- Every merged property is one of an object. -/
theorem mem_names_foldl_mergeProperties {objects : List (Members Schema)} {seen : Members Schema}
    {name : String} (h : name ∈ names (objects.foldl mergeProperties seen)) :
    name ∈ names seen ∨ ∃ properties ∈ objects, name ∈ names properties := by
  induction objects generalizing seen with
  | nil => exact .inl h
  | cons properties rest ih =>
    rcases ih h with hseen | ⟨found, hfound, hname⟩
    · rcases mem_names_mergeProperties hseen with hold | hnew
      · exact .inl hold
      · exact .inr ⟨properties, List.mem_cons_self, hnew⟩
    · exact .inr ⟨found, List.mem_cons_of_mem _ hfound, hname⟩

/-- Only the schemas of objects have properties. -/
theorem mem_names_propertiesOf_infer {value : Json} {name : String}
    (h : name ∈ names (propertiesOf (inferrer.infer value))) :
    ∃ members, value = .object members ∧ name ∈ names members := by
  cases value with
  | object members =>
    rw [propertiesOf_infer, names_mapMembers] at h
    exact ⟨members, rfl, h⟩
  | array elements =>
    rw [infer] at h
    cases hschemas : inferAll inferrer elements <;> rw [hschemas] at h <;> cases h
  | _ => cases h

/-! ### Values of one shape -/

theorem Twins.arraySchema_eq (twins : Twins times limit inferrer inferrer')
    (h : samples.map shape = samples'.map shape) (short : samples.length < limit)
    {schemas : List Schema}
    (untimed : ∀ schema ∈ schemas, ∀ name ∈ names (propertiesOf schema),
      times.isFoundIn name = false) :
    inferrer.arraySchema schemas samples = inferrer'.arraySchema schemas samples' := by
  have hunify : inferrer.unify schemas samples = inferrer'.unify schemas samples' := by
    unfold unify
    dsimp only
    rw [foldl_apply, foldl_apply]
    congr 1
    apply List.map_congr_left
    intro entry hentry
    -- every name comes from an element
    have hname := mem_names_foldl_mergeProperties (List.mem_map_of_mem hentry)
    rcases hname with hnil | ⟨properties, hproperties, hname⟩
    · cases hnil
    · obtain ⟨schema, hschema, rfl⟩ := List.mem_map.mp hproperties
      rw [twins.refine_eq h short (untimed schema hschema entry.1 hname)]
  cases schemas with
  | nil => rfl
  | cons first rest =>
    unfold arraySchema elementSchema
    dsimp only
    rw [hunify]

/-- Twins give one schema to values of one shape. -/
theorem Twins.infer_eq (twins : Twins times limit inferrer inferrer') {v w : Json}
    (hshape : v.shape = w.shape)
    (short : ∀ elements, (Json.array elements).Within v → elements.length < limit)
    (untimed : ∀ members, (Json.object members).Within v → ∀ name ∈ names members,
      times.isFoundIn name = false) :
    inferrer.infer v = inferrer'.infer w := by
  induction v using Json.induction generalizing w with
  | null => cases w <;> first | rfl | simp [shape] at hshape
  | bool value => cases w <;> first | rfl | simp [shape] at hshape
  | number value =>
    cases w with
    | number other =>
      have hwhole : value.isWhole = other.isWhole := by simpa [shape] using hshape
      show ofNumber value = ofNumber other
      rw [ofNumber, ofNumber, hwhole]
    | _ => simp [shape] at hshape
  | string text =>
    cases w with
    | string other =>
      have hformat : StringFormat.detect text = StringFormat.detect other := by
        simpa [shape] using hshape
      show inferrer.ofString text = inferrer'.ofString other
      rw [ofString, ofString, hformat, twins.formats]
    | _ => simp [shape] at hshape
  | array elements ih =>
    cases w with
    | array others =>
      rw [shape_array, shape_array, Shape.array.injEq] at hshape
      have hschemas : elements.map inferrer.infer = others.map inferrer'.infer := by
        apply map_eq_of_shape hshape
        intro v hv w hvw
        exact ih v hv hvw (fun elements h => short elements (.element hv h))
          fun members h => untimed members (.element hv h)
      rw [infer, infer, inferAll_eq, inferAll_eq, ← hschemas]
      apply twins.arraySchema_eq hshape (short elements .self)
      intro schema hschema name hname
      obtain ⟨element, helement, rfl⟩ := List.mem_map.mp hschema
      obtain ⟨members, rfl, hmembers⟩ := mem_names_propertiesOf_infer hname
      exact untimed members (.element helement .self) name hmembers
    | _ => simp [shape] at hshape
  | object members ih =>
    cases w with
    | object others =>
      rw [shape_object, shape_object, Shape.object.injEq] at hshape
      have hschemas : Parts.mapMembers inferrer.infer members
          = Parts.mapMembers inferrer'.infer others := by
        apply mapMembers_eq_of_shape hshape
        intro member hmember w hvw
        exact ih member hmember hvw (fun elements h => short elements (.member hmember h))
          fun members h => untimed members (.member hmember h)
      -- which names are required depends on what is null, and that is part of the shape
      have hnull := mapMembers_eq_of_shape hshape fun _ _ _ => isNull_eq_of_shape
      have hrequired (members : Members Json) :
          names (members.filter fun member => !member.2.isNull)
            = names ((Parts.mapMembers isNull members).filter fun member => !member.2) := by
        simp [names, Parts.mapMembers, List.filter_map, Function.comp_def]
      rw [infer_object, infer_object, hschemas, hrequired, hrequired, hnull]
    | _ => simp [shape] at hshape

end Twins

/-- Inference sees only the shape of short samples. Values of one shape have the same schema, at
whatever time they are inferred, if every array has fewer elements than must be there for values to
be listed, and no key is a name for timestamps. -/
theorem infer_eq_of_shape (hconfig : ofConfig config clockMs = .ok inferrer)
    (hconfig' : ofConfig config clockMs' = .ok inferrer') {v w : Json} (hshape : v.shape = w.shape)
    (short : ∀ elements, (Json.array elements).Within v → elements.length < config.enumMinItems)
    (untimed : ∀ times, Regex.compile config.timestampPattern = .ok times →
      ∀ members, (Json.object members).Within v → ∀ name ∈ names members,
        times.isFoundIn name = false) :
    inferrer.infer v = inferrer'.infer w := by
  obtain ⟨times, htimes, twins⟩ := exists_twins hconfig hconfig'
  exact twins.infer_eq hshape short (untimed times htimes)

/-- Settings in which every name is one for coordinates and only the empty one is for timestamps. -/
def placeConfig : InferenceConfig := { coordinatePattern := "", timestampPattern := "^$" }

/-- An object with two numbers under a name for coordinates. -/
def placeSample (x y : Int) : Json :=
  .object [("c", .array [.number (.ofInt x), .number (.ofInt y)])]

/-- Two such objects. -/
def twoPlaces (x y x' y' : Int) : Json := .array [placeSample x y, placeSample x' y']

theorem within_twoPlaces {inner : Json} {x y x' y' : Int} (h : inner.Within (twoPlaces x y x' y')) :
    inner = twoPlaces x y x' y' ∨ (∃ x y, inner = placeSample x y)
      ∨ (∃ x y : Number, inner = .array [.number x, .number y]) ∨ ∃ x, inner = .number x := by
  have hplace {x y : Int} (h : inner.Within (placeSample x y)) : (∃ x y, inner = placeSample x y)
      ∨ (∃ x y : Number, inner = .array [.number x, .number y]) ∨ ∃ x, inner = .number x := by
    cases h with
    | self => exact .inl ⟨x, y, rfl⟩
    | member hmember h =>
      obtain rfl := List.mem_singleton.mp hmember
      cases h with
      | self => exact .inr (.inl ⟨_, _, rfl⟩)
      | element helement h =>
        simp only [List.mem_cons, List.not_mem_nil, or_false] at helement
        rcases helement with rfl | rfl <;> cases h <;> exact .inr (.inr ⟨_, rfl⟩)
  cases h with
  | self => exact .inl rfl
  | element helement h =>
    simp only [List.mem_cons, List.not_mem_nil, or_false] at helement
    rcases helement with rfl | rfl <;> exact .inr (hplace h)

/-- The pairs are coordinates in both documents, though all their numbers differ. -/
theorem infer_eq_of_shape_places :
    (∀ elements, (Json.array elements).Within (twoPlaces 1 2 3 4) →
        elements.length < placeConfig.enumMinItems)
      ∧ (∀ times, Regex.compile placeConfig.timestampPattern = .ok times →
        ∀ members, (Json.object members).Within (twoPlaces 1 2 3 4) → ∀ name ∈ names members,
          times.isFoundIn name = false)
      ∧ (twoPlaces 1 2 3 4).shape = (twoPlaces 5 6 7 8).shape
      ∧ ∃ inferrer inferrer', ofConfig placeConfig 0 = .ok inferrer
        ∧ ofConfig placeConfig 1 = .ok inferrer'
        ∧ inferrer.infer (twoPlaces 1 2 3 4) = inferrer'.infer (twoPlaces 5 6 7 8) := by
  have short : ∀ elements, (Json.array elements).Within (twoPlaces 1 2 3 4) →
      elements.length < placeConfig.enumMinItems := by
    intro elements h
    rcases within_twoPlaces h with heq | ⟨x, y, heq⟩ | ⟨x, y, heq⟩ | ⟨x, heq⟩ <;> cases heq <;>
      exact (by decide : 2 < 10)
  have untimed : ∀ times, Regex.compile placeConfig.timestampPattern = .ok times →
      ∀ members, (Json.object members).Within (twoPlaces 1 2 3 4) → ∀ name ∈ names members,
        times.isFoundIn name = false := by
    intro times htimes members h name hname
    -- this pattern is found in the empty text only, and the keys are not empty
    have hpattern : (Regex.compile "^$").toOption
        = some (.seq (.anchor .textStart) (.anchor .textEnd)) := by cbv
    rw [show Regex.compile "^$" = .ok times from htimes] at hpattern
    obtain rfl := Option.some.inj hpattern
    rcases within_twoPlaces h with heq | ⟨x, y, heq⟩ | ⟨x, y, heq⟩ | ⟨x, heq⟩ <;> cases heq
    obtain rfl := List.mem_singleton.mp hname
    show (Regex.seq (.anchor .textStart) (.anchor .textEnd)).isFoundIn "c" = false
    decide
  have hplaces : (Regex.compile "").toBool = true := by cbv
  have htimes : (Regex.compile "^$").toBool = true := by cbv
  obtain ⟨inferrer, hconfig⟩ : ∃ inferrer, ofConfig placeConfig 0 = .ok inferrer :=
    exists_ofConfig 0 hplaces htimes
  obtain ⟨inferrer', hconfig'⟩ : ∃ inferrer', ofConfig placeConfig 1 = .ok inferrer' :=
    exists_ofConfig 1 hplaces htimes
  have hshape : (twoPlaces 1 2 3 4).shape = (twoPlaces 5 6 7 8).shape := rfl
  exact ⟨short, untimed, hshape, inferrer, inferrer', hconfig, hconfig',
    infer_eq_of_shape hconfig hconfig' hshape short untimed⟩

end Inferrer

end JsonShape
