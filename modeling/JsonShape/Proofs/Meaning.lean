import JsonShape.Pattern.Syntax
import JsonShape.Proofs.TreeEquality

/-!
# What a schema means

A schema accepts a value if each of its keywords does. The keywords with a field are read as the
standard reads them, except that of the alternatives of a choice at least one has to accept. What
the standard leaves to others is a `Dialect`: the language of patterns, what formats assert, and
the keywords without a field.

Main statement: `Schema.accepts_eq_of_same`, equal schemas without repeated names accept the same
values.
-/

namespace JsonShape

open Members

/-- The parts have the same schemas, and only members of objects may stand in another order. -/
structure Parts.Reordered {α : Type} (parts others : Parts α) : Prop where
  map : ∀ k, Option.Rel List.Perm (parts.map? k) (others.map? k)
  list : ∀ k, parts.list? k = others.list? k
  single : ∀ k, parts.single? k = others.single? k
  items : parts.items = others.items

/-- What a reader of schemas settles for itself. -/
structure Dialect where
  /-- Whether a pattern is found in a text. -/
  finds : (pattern text : String) → Bool
  /-- Whether a value has a format. -/
  hasFormat : (format : String) → Json → Bool
  /-- Whether a value meets the keywords without a field, which may look at the other ones: the
  least and the greatest number of elements, for one, count those that such a keyword accepts. -/
  meetsOthers : Facets → Parts (Json → Bool) → Json → Bool
  /-- Where there are none, they are met. -/
  meetsOthers_nil : ∀ facets parts value, facets.extra = [] → meetsOthers facets parts value = true
  /-- The order of members does not count. -/
  meetsOthers_congr : ∀ facets others parts parts', facets.UniqueNames parts →
    facets.same others = true → parts.Reordered parts' →
    meetsOthers facets parts = meetsOthers others parts'

/-- The dialect in which patterns are those of the library, and all else asserts nothing. -/
def Dialect.plain : Dialect where
  finds pattern text := (Regex.compile pattern).toOption.any (·.isFoundIn text)
  hasFormat _ _ := true
  meetsOthers _ _ _ := true
  meetsOthers_nil _ _ _ _ := rfl
  meetsOthers_congr _ _ _ _ _ _ _ := rfl

/-! ### Keywords -/

/-- Whether a number of things lies between two limits. -/
def Facets.allowsCount (facets : Facets) (least most : NumberKeyword) (count : Nat) : Bool :=
  (facets.number? least).all (fun limit => decide (limit.units ≤ count * (Binary64.one : Int)))
    && (facets.number? most).all fun limit => decide (count * (Binary64.one : Int) ≤ limit.units)

/-- Whether a value meets the keywords without sub-schemas. -/
def Facets.meets (dialect : Dialect) (facets : Facets) (value : Json) : Bool :=
  facets.type.all (·.allows value)
    && facets.choices.all (·.any (·.equals value))
    && (facets.text? .format).all (dialect.hasFormat · value)
    && match value with
      | .number x =>
        (facets.number? .minimum).all (fun limit => !x.lt limit)
          && (facets.number? .maximum).all (fun limit => !limit.lt x)
          && (facets.number? .exclusiveMinimum).all (fun limit => limit.lt x)
          && (facets.number? .exclusiveMaximum).all (fun limit => x.lt limit)
          && (facets.number? .multipleOf).all fun divisor => x.units % divisor.units == 0
      | .string text =>
        facets.allowsCount .minLength .maxLength text.length
          && (facets.text? .pattern).all (dialect.finds · text)
      | .array elements =>
        facets.allowsCount .minItems .maxItems elements.length
          && (facets.uniqueItems != some true || Json.allDistinct elements)
      | .object members =>
        facets.allowsCount .minProperties .maxProperties members.length
          && facets.required.all (·.all (Members.contains members))
      | _ => true

/-- Whether elements are accepted by the schemas at their places. -/
def meetsPlaces (schemas : List (Json → Bool)) (elements : List Json) : Bool :=
  (schemas.zip elements).all fun (accepts, element) => accepts element

/-- Whether a value meets the keywords with sub-schemas, given what each of these accepts. -/
def Parts.meets (dialect : Dialect) (parts : Parts (Json → Bool)) (value : Json) : Bool :=
  (parts.list? .allOf).all (·.all (· value))
    && (parts.list? .anyOf).all (·.any (· value))
    && (parts.list? .oneOf).all (·.any (· value))
    && (parts.single? .negation).all (fun accepts => !accepts value)
    && match value with
      | .array elements =>
        meetsPlaces ((parts.list? .prefixItems).getD []) elements
          && match parts.items with
            | none => true
            | some (.tuple schemas) => meetsPlaces schemas elements
            -- one schema for all elements leaves out those that have a place
            | some (.single accepts) =>
              (elements.drop ((parts.list? .prefixItems).getD []).length).all accepts
      | .object members =>
        let named := (parts.map? .properties).getD []
        let patterns := (parts.map? .patternProperties).getD []
        members.all fun (name, x) =>
          named.all (fun (key, accepts) => key != name || accepts x)
            && patterns.all (fun (pattern, accepts) => !dialect.finds pattern name || accepts x)
            && (named.any (fun (key, _) => key == name)
              || patterns.any (fun (pattern, _) => dialect.finds pattern name)
              || (parts.single? .additionalProperties).all (· x))
      | _ => true

/-- Whether a schema accepts a value, if one alternative of a choice is enough. -/
def Schema.accepts (dialect : Dialect) : Schema → Json → Bool :=
  fold (fun accepts _ => accepts)
    fun facets parts value => facets.meets dialect value && parts.meets dialect value
      && dialect.meetsOthers facets parts value

/-! ### Equality with a listed value -/

theorem Number.equals_trans {a b c : Number} (hab : a.equals b = true) (hbc : b.equals c = true) :
    a.equals c = true :=
  beq_iff_eq.mpr ((beq_iff_eq.mp hab).trans (beq_iff_eq.mp hbc))

namespace Json

/-- Values that are equal are so under any coarser equality of numbers. -/
theorem sameUpTo_imp {finer coarser : Number → Number → Bool}
    (imp : ∀ x y, finer x y = true → coarser x y = true) {a b : Json}
    (h : sameUpTo finer a b = true) : sameUpTo coarser a b = true := by
  induction a using Json.induction generalizing b with
  | number x =>
    cases b with
    | number y => exact imp x y h
    | _ => cases h
  | array as ih =>
    obtain ⟨bs, rfl, hpairs⟩ := sameUpTo_array h
    exact sameElementsUpTo_iff.mpr (forall₂_imp_of_mem hpairs fun a ha b _ hab => ih a ha hab)
  | object as ih =>
    obtain ⟨bs, rfl, hlength, hall⟩ := sameUpTo_object h
    rw [sameUpTo, Bool.and_eq_true, beq_iff_eq, sameMembersUpTo_iff]
    refine ⟨hlength, fun member hmember => ?_⟩
    obtain ⟨b, hb, hsame⟩ := hall member hmember
    exact ⟨b, hb, ih member hmember hsame⟩
  | _ => cases b <;> exact h

theorem equals_of_same {a b : Json} (h : a.same b = true) : a.equals b = true :=
  sameUpTo_imp (fun _ _ hxy => beq_iff_eq.mpr (Number.units_eq_of_same hxy)) h

theorem equals_trans {a b c : Json} (hab : a.equals b = true) (hbc : b.equals c = true) :
    a.equals c = true :=
  @sameUpTo_trans Number.equals Number.equals_trans a b c hab hbc

/-- Equal values are equal to the same values. -/
theorem equals_eq_of_same {a b : Json} (unique : a.UniqueNames) (h : a.same b = true)
    (value : Json) : a.equals value = b.equals value := by
  rw [Bool.eq_iff_iff]
  constructor
  · exact equals_trans (equals_of_same (same_symm unique h))
  · exact equals_trans (equals_of_same h)

end Json

/-! ### Equal keywords -/

theorem TypeSpec.allows_eq_of_same {spec other : TypeSpec} (h : spec.same other = true)
    (value : Json) : spec.allows value = other.allows value := by
  cases spec with
  | single type => rw [same_single h]
  | several types =>
    cases other with
    | several types' =>
      obtain rfl : types = types' := beq_iff_eq.mp h
      rfl
    | _ => cases h
  | other written =>
    cases other with
    | other _ => rfl
    | _ => cases h

namespace Facets

variable {a b : Facets}

theorem same_text (h : a.same b = true) (keyword : TextKeyword) :
    a.text? keyword = b.text? keyword := by
  simp only [same, Bool.and_eq_true] at h
  exact beq_iff_eq.mp (List.all_eq_true.mp h.1.1.1.1.1.1 keyword keyword.mem_all)

theorem same_uniqueItems (h : a.same b = true) : a.uniqueItems = b.uniqueItems := by
  simp only [same, Bool.and_eq_true] at h
  exact beq_iff_eq.mp h.1.1.2

/-- A condition on a number that looks only at its value. -/
theorem all_number?_eq_of_same (h : a.same b = true) (k : NumberKeyword) {p : Number → Bool}
    (hp : ∀ x y : Number, x.units = y.units → p x = p y) :
    (a.number? k).all p = (b.number? k).all p :=
  all_eq_of_relateOption (same_number h k) fun x y hsame => hp x y (Number.units_eq_of_same hsame)

theorem allowsCount_eq_of_same (h : a.same b = true) (least most : NumberKeyword) (count : Nat) :
    a.allowsCount least most count = b.allowsCount least most count := by
  unfold allowsCount
  refine congrArg₂ and ?_ ?_ <;>
    exact all_number?_eq_of_same h _ fun x y hxy => by rw [hxy]

theorem any_equals_eq_of_same (h : a.same b = true)
    (unique : ∀ values, a.choices = some values → ∀ value ∈ values, value.UniqueNames)
    (value : Json) :
    a.choices.all (·.any (·.equals value)) = b.choices.all (·.any (·.equals value)) := by
  obtain ⟨ha, hb⟩ | ⟨values, others, ha, hb, hsame⟩ := relateOption_cases (same_choices h)
  · rw [ha, hb]
  · rw [ha, hb, Option.all_some, Option.all_some]
    have hpairs := forall₂_imp_of_mem (Json.sameElementsUpTo_iff.mp hsame)
      fun x hx y _ hxy => Json.equals_eq_of_same (unique values ha x hx) hxy value
    exact any_eq_of_forall₂ hpairs fun _ _ hequal => hequal

/-- Equal facets are met by the same values. -/
theorem meets_eq_of_same (dialect : Dialect) (h : a.same b = true)
    (unique : ∀ values, a.choices = some values → ∀ value ∈ values, value.UniqueNames)
    (value : Json) : a.meets dialect value = b.meets dialect value := by
  have htype : a.type.all (·.allows value) = b.type.all (·.allows value) :=
    all_eq_of_relateOption (same_type h) fun _ _ hsame => TypeSpec.allows_eq_of_same hsame value
  unfold meets
  rw [htype, any_equals_eq_of_same h unique value, same_text h]
  refine congrArg₂ and rfl ?_
  cases value with
  | number x =>
    refine congrArg₂ and (congrArg₂ and (congrArg₂ and (congrArg₂ and ?_ ?_) ?_) ?_) ?_ <;>
      exact all_number?_eq_of_same h _ fun limit other hunits => by simp only [Number.lt, hunits]
  | string text => simp only [allowsCount_eq_of_same h, same_text h]
  | array elements => simp only [allowsCount_eq_of_same h, same_uniqueItems h]
  | object members => simp only [allowsCount_eq_of_same h, same_required h]
  | _ => rfl

end Facets

namespace Parts

theorem map_eq_of_relateList {α β γ : Type} {related : α → β → Bool} {f : α → γ} {g : β → γ}
    {as : List α} {bs : List β} (hfg : ∀ a b, related a b = true → f a = g b)
    (h : relateList related as bs = true) : as.map f = bs.map g := by
  rw [relateList_iff] at h
  induction h with
  | nil => rfl
  | cons hhead _ ih => rw [List.map_cons, List.map_cons, hfg _ _ hhead, ih]

theorem perm_mapMembers_of_relate {α β γ : Type} {related : α → β → Bool} {f : α → γ} {g : β → γ}
    {as : Members α} {bs : Members β} (hfg : ∀ a b, related a b = true → f a = g b)
    (nodup : (names as).Nodup) (h : Members.relate related as bs = true) :
    (mapMembers f as).Perm (mapMembers g bs) := by
  obtain ⟨hlength, hall⟩ := relate_iff.mp h
  -- entries without repeated names are not repeated, so an inclusion of equal length is a
  -- rearrangement
  have hnodup : (mapMembers f as).Nodup := by
    refine List.Nodup.of_map Prod.fst ?_
    have hnames := names_mapMembers f as
    unfold names at hnames nodup
    rwa [hnames]
  refine (List.subperm_of_subset hnodup ?_).perm_of_length_le (by simp [mapMembers, hlength])
  rintro ⟨name, image⟩ himage
  obtain ⟨a, ha, rfl⟩ := mem_mapMembers.mp himage
  obtain ⟨b, hb, hrelated⟩ := hall (name, a) ha
  exact mem_mapMembers.mpr ⟨b, mem_of_lookup hb, (hfg a b hrelated).symm⟩

/-- Of parts with related schemas, any function with the same value on related ones gives the same
results. -/
theorem reordered_of_relate {α β γ : Type} {related : α → β → Bool} {f : α → γ} {g : β → γ}
    {parts : Parts α} {others : Parts β} (hfg : ∀ a b, related a b = true → f a = g b)
    (unique : parts.UniqueNames) (h : parts.relate related others = true) :
    (parts.map f).Reordered (others.map g) := by
  obtain ⟨hmap, hlist, hsingle, hitems⟩ := relate_fields h
  constructor
  · intro k
    rw [map?_map, map?_map]
    have hunique := unique k
    obtain ⟨ha, hb⟩ | ⟨as, bs, ha, hb, hrelate⟩ := relateOption_cases (hmap k)
    · rw [ha, hb]
      exact .none
    · rw [ha] at hunique
      rw [ha, hb]
      exact .some (perm_mapMembers_of_relate hfg hunique hrelate)
  · intro k
    rw [list?_map, list?_map]
    obtain ⟨ha, hb⟩ | ⟨as, bs, ha, hb, hrelate⟩ := relateOption_cases (hlist k)
    · rw [ha, hb]
      rfl
    · rw [ha, hb, Option.map_some, Option.map_some, map_eq_of_relateList hfg hrelate]
  · intro k
    rw [single?_map, single?_map]
    obtain ⟨ha, hb⟩ | ⟨a, b, ha, hb, hrelate⟩ := relateOption_cases (hsingle k)
    · rw [ha, hb]
      rfl
    · rw [ha, hb, Option.map_some, Option.map_some, hfg a b hrelate]
  · show parts.items.map (Items.map f) = others.items.map (Items.map g)
    obtain ⟨ha, hb⟩ | ⟨a, b, ha, hb, hrelate⟩ := relateOption_cases hitems
    · rw [ha, hb]
      rfl
    · rw [ha, hb, Option.map_some, Option.map_some]
      cases a with
      | tuple as =>
        cases b with
        | tuple bs => rw [Items.map, Items.map, map_eq_of_relateList hfg hrelate]
        | single b => cases hrelate
      | single a =>
        cases b with
        | tuple bs => cases hrelate
        | single b => rw [Items.map, Items.map, hfg a b hrelate]

theorem Reordered.perm_getD {α : Type} {parts others : Parts α} (h : parts.Reordered others)
    (k : MapKeyword) : ((parts.map? k).getD []).Perm ((others.map? k).getD []) := by
  have hmap := h.map k
  generalize parts.map? k = schemas, others.map? k = schemas' at hmap
  cases hmap with
  | none => exact .refl []
  | some hperm => exact hperm

theorem Reordered.meets_eq {parts others : Parts (Json → Bool)} (dialect : Dialect)
    (h : parts.Reordered others) (value : Json) :
    parts.meets dialect value = others.meets dialect value := by
  unfold meets
  rw [h.list, h.list, h.list, h.list, h.single, h.single, h.items]
  cases value with
  | object members =>
    simp only [(h.perm_getD .properties).all_eq, (h.perm_getD .properties).any_eq,
      (h.perm_getD .patternProperties).all_eq, (h.perm_getD .patternProperties).any_eq]
  | _ => rfl

end Parts

/-! ### Equal schemas -/

/-- No name is repeated in contents that are mapped. -/
theorem Facets.UniqueNames.map {α β : Type} {facets : Facets} {parts : Parts α}
    (unique : facets.UniqueNames parts) (f : α → β) : facets.UniqueNames (parts.map f) where
  fields := by
    intro k content hcontent
    rw [field?_map, Option.map_eq_some_iff] at hcontent
    obtain ⟨own, hown, rfl⟩ := hcontent
    have hunique := unique.fields hown
    cases k with
    | map k =>
      show (Members.names (Parts.mapMembers f own)).Nodup
      rw [names_mapMembers]
      exact hunique
    | type | choices => exact hunique
    | _ => trivial
  names := unique.names
  values := unique.values

namespace Schema

variable {dialect : Dialect} {schema other : Schema} {facets : Facets} {parts : Parts Schema}
  {value : Json}

@[simp] theorem accepts_boolean (accepted : Bool) :
    (boolean accepted).accepts dialect value = accepted := rfl

theorem accepts_object : (object facets parts).accepts dialect value =
    (facets.meets dialect value && (parts.map (accepts dialect)).meets dialect value
      && dialect.meetsOthers facets (parts.map (accepts dialect)) value) := by
  unfold accepts
  rw [fold_object]

/-- Equal schemas accept the same values. -/
theorem accepts_eq_of_same (unique : schema.UniqueNames) (h : schema.same other = true) :
    schema.accepts dialect = other.accepts dialect := by
  classical
  induction schema using Schema.induction generalizing other with
  | boolean accepted =>
    cases other with
    | boolean accepted' =>
      obtain rfl : accepted = accepted' := beq_iff_eq.mp h
      rfl
    | object facets parts => cases h
  | object facets parts ih =>
    obtain ⟨facets', parts', rfl, -⟩ := same_object h
    rw [same_object_eq, Bool.and_eq_true] at h
    obtain ⟨hfacets, hparts, hbelow⟩ := unique.of_object
    -- the parts accept the same values by induction, so their verdicts differ only in order
    have hrelate : parts.relate
        (fun part other => decide (part.accepts dialect = other.accepts dialect)) parts' = true :=
      Parts.relate_imp (fun part hpart other hother =>
        decide_eq_true (ih part hpart (hbelow part hpart) hother)) h.2
    have hreordered : (parts.map (accepts dialect)).Reordered (parts'.map (accepts dialect)) :=
      Parts.reordered_of_relate (fun _ _ hequal => of_decide_eq_true hequal) hparts hrelate
    funext value
    rw [accepts_object, accepts_object, hreordered.meets_eq,
      Facets.meets_eq_of_same dialect h.1 (fun _ hvalues => hfacets.fields (k := .choices) hvalues),
      dialect.meetsOthers_congr facets facets' _ _ (hfacets.map _) h.1 hreordered]

/-! ### Single types and choices -/

end Schema

theorem Facets.meets_empty (dialect : Dialect) (value : Json) :
    ({} : Facets).meets dialect value = true := by
  cases value <;> rfl

theorem Facets.meets_typed (dialect : Dialect) (type : TypeName) (value : Json) :
    (Facets.typed type).meets dialect value = type.hasValue value := by
  -- the type is the first condition, and the others are empty
  have hmeets : (Facets.typed type).meets dialect value
      = (type.hasValue value && ({} : Facets).meets dialect value) := by
    cases value <;> simp only [meets, typed, Option.all_some, Option.all_none, Bool.and_true,
      Bool.true_and, Bool.and_assoc, TypeSpec.allows] <;> rfl
  rw [hmeets, meets_empty, Bool.and_true]

/-- Parts that are nothing but a choice are met by what one alternative accepts. -/
theorem Parts.meets_oneOf (dialect : Dialect) (schemas : Option (List (Json → Bool)))
    (value : Json) :
    ({ oneOf := schemas } : Parts (Json → Bool)).meets dialect value
      = schemas.all (·.any (· value)) := by
  cases value <;> simp [meets, list?, single?, map?, meetsPlaces]

namespace Schema

variable {dialect : Dialect} {schema other : Schema} {facets : Facets} {parts : Parts Schema}
  {value : Json}

/-- A schema with a single type accepts only values of that type. -/
theorem hasValue_of_accepts {type : TypeName} (htype : schema.isType type = true)
    (h : schema.accepts dialect value = true) : type.hasValue value = true := by
  cases schema with
  | boolean accepted => cases htype
  | object facets parts =>
    have hany : facets.type.any (·.is type) = true := htype
    rw [Option.any_eq_true] at hany
    obtain ⟨spec, hspec, his⟩ := hany
    rw [accepts_object] at h
    unfold Facets.meets at h
    simp only [Bool.and_eq_true, hspec, Option.all_some] at h
    have hallows : spec.allows value = true := h.1.1.1.1.1
    cases spec with
    | single own =>
      obtain rfl : own = type := beq_iff_eq.mp his
      exact hallows
    | _ => cases his

theorem accepts_typed {type : TypeName} :
    (typed type).accepts dialect value = type.hasValue value := by
  have hparts : (({} : Parts Schema).map (accepts dialect)).meets dialect value = true :=
    Parts.meets_oneOf dialect none value
  rw [typed, accepts_object, dialect.meetsOthers_nil _ _ _ rfl, hparts, Facets.meets_typed,
    Bool.and_true, Bool.and_true]

theorem accepts_oneOf {alternatives : List Schema} :
    (oneOf alternatives).accepts dialect value = alternatives.any (·.accepts dialect value) := by
  have hparts : (({ oneOf := some alternatives } : Parts Schema).map (accepts dialect)).meets
      dialect value = (alternatives.map (accepts dialect)).any (· value) :=
    Parts.meets_oneOf dialect (some (alternatives.map (accepts dialect))) value
  rw [oneOf, accepts_object, dialect.meetsOthers_nil _ _ _ rfl, hparts, Facets.meets_empty,
    Bool.true_and, Bool.and_true, List.any_map]
  rfl

/-- A value that an object schema accepts is accepted by one of the alternatives. -/
theorem exists_alternative (h : (object facets parts).accepts dialect value = true) :
    ∃ alternative ∈ (object facets parts).alternatives,
      alternative.accepts dialect value = true := by
  have halternatives : (object facets parts).alternatives
      = parts.oneOf.getD [object facets parts] := rfl
  rw [halternatives]
  cases honeOf : parts.oneOf with
  | none => exact ⟨_, List.mem_singleton_self _, h⟩
  | some schemas =>
    rw [accepts_object] at h
    unfold Parts.meets at h
    have hlist : parts.list? .oneOf = some schemas := honeOf
    simp only [Bool.and_eq_true, Parts.list?_map, hlist, Option.map_some, Option.all_some,
      List.any_map, List.any_eq_true] at h
    exact h.1.2.1.1.2

end Schema

end JsonShape
