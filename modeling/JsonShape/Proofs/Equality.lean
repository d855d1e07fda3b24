import JsonShape.Inference.Refinement
import JsonShape.Proofs.Members
import Mathlib.Data.List.Forall2

/-!
# Equality of values and of schemas

Equality looks only at what counts: the order of members does not, nor does the spelling of zero.
It is therefore no equality of terms, and that it is transitive has to be shown.

* **Values** (`Json.same_trans`, `Refinement.sameValue_of_same`) — equality is transitive, and equal
  values count as one where values are listed.
* **Schemas** (`Schema.same_object`, `Parts.relate_properties`, `Parts.relate_oneOf`) — equal
  schemas have related facets and parts.
-/

namespace JsonShape

namespace Json

/-- A property of values holds of all if it holds of an array or object whenever it holds of its
elements or members. -/
@[elab_as_elim]
theorem induction {motive : Json → Prop} (null : motive .null)
    (bool : ∀ value, motive (.bool value)) (number : ∀ value, motive (.number value))
    (string : ∀ value, motive (.string value))
    (array : ∀ elements, (∀ element ∈ elements, motive element) → motive (.array elements))
    (object : ∀ members : Members Json, (∀ member ∈ members, motive member.2) →
      motive (.object members))
    (value : Json) : motive value :=
  @Json.rec motive (fun elements => ∀ element ∈ elements, motive element)
    (fun members => ∀ member ∈ members, motive member.2) (fun member => motive member.2)
    null bool number string array object
    (fun _ h => by cases h) (fun _ _ head tail => List.forall_mem_cons.mpr ⟨head, tail⟩)
    (fun _ h => by cases h) (fun _ _ head tail => List.forall_mem_cons.mpr ⟨head, tail⟩)
    (fun _ _ h => h) value

section Relate

variable {sameNumber : Number → Number → Bool}

theorem sameElementsUpTo_iff {as bs : List Json} :
    sameElementsUpTo sameNumber as bs = true ↔
      List.Forall₂ (fun a b => sameUpTo sameNumber a b = true) as bs := by
  induction as generalizing bs with
  | nil => cases bs <;> simp [sameElementsUpTo]
  | cons a as ih => cases bs <;> simp [sameElementsUpTo, ih]

theorem sameMembersUpTo_iff {as bs : Members Json} :
    sameMembersUpTo sameNumber as bs = true ↔
      ∀ member ∈ as, ∃ b, bs.lookup member.1 = some b ∧ sameUpTo sameNumber member.2 b = true := by
  induction as with
  | nil => simp [sameMembersUpTo]
  | cons member as ih =>
    obtain ⟨name, a⟩ := member
    rw [sameMembersUpTo, Bool.and_eq_true, ih, List.forall_mem_cons]
    refine and_congr_left fun _ => ?_
    cases bs.lookup name <;> simp

theorem sameUpTo_array {as : List Json} {value : Json}
    (h : sameUpTo sameNumber (array as) value = true) :
    ∃ bs, value = array bs ∧ List.Forall₂ (fun a b => sameUpTo sameNumber a b = true) as bs := by
  cases value with
  | array bs => exact ⟨bs, rfl, sameElementsUpTo_iff.mp h⟩
  | _ => cases h

theorem sameUpTo_object {as : Members Json} {value : Json}
    (h : sameUpTo sameNumber (object as) value = true) :
    ∃ bs : Members Json, value = object bs ∧ as.length = bs.length ∧
      ∀ member ∈ as, ∃ b, bs.lookup member.1 = some b ∧ sameUpTo sameNumber member.2 b = true := by
  cases value with
  | object bs =>
    rw [sameUpTo, Bool.and_eq_true, beq_iff_eq] at h
    exact ⟨bs, rfl, h.1, sameMembersUpTo_iff.mp h.2⟩
  | _ => cases h

/-- Equality of values is transitive if equality of numbers is. -/
theorem sameUpTo_trans
    (transitive : ∀ {a b c}, sameNumber a b = true → sameNumber b c = true → sameNumber a c = true)
    {a b c : Json} (hab : sameUpTo sameNumber a b = true) (hbc : sameUpTo sameNumber b c = true) :
    sameUpTo sameNumber a c = true := by
  induction a using Json.induction generalizing b c with
  | null =>
    cases b with
    | null => exact hbc
    | _ => cases hab
  | bool value =>
    cases b with
    | bool other =>
      have heq : value = other := beq_iff_eq.mp hab
      rw [heq]
      exact hbc
    | _ => cases hab
  | number value =>
    cases b with
    | number other =>
      cases c with
      | number third => exact transitive hab hbc
      | _ => cases hbc
    | _ => cases hab
  | string value =>
    cases b with
    | string other =>
      have heq : value = other := beq_iff_eq.mp hab
      rw [heq]
      exact hbc
    | _ => cases hab
  | array as ih =>
    obtain ⟨bs, rfl, hbs⟩ := sameUpTo_array hab
    obtain ⟨cs, rfl, hcs⟩ := sameUpTo_array hbc
    refine sameElementsUpTo_iff.mpr ?_
    -- along both lists at once; the hypothesis for the elements is about those of the first
    clear hab hbc
    induction hbs generalizing cs with
    | nil =>
      cases hcs
      exact .nil
    | cons hhead _ ihbs =>
      cases hcs with
      | cons hhead' htail' =>
        rw [List.forall_mem_cons] at ih
        exact .cons (ih.1 hhead hhead') (ihbs ih.2 _ htail')
  | object as ih =>
    obtain ⟨bs, rfl, hlength, hbs⟩ := sameUpTo_object hab
    obtain ⟨cs, rfl, hlength', hcs⟩ := sameUpTo_object hbc
    rw [sameUpTo, Bool.and_eq_true, beq_iff_eq]
    refine ⟨hlength.trans hlength', sameMembersUpTo_iff.mpr ?_⟩
    -- a member of the first is found under its name in the second, and that one in the third
    intro member hmember
    obtain ⟨b, hb, hsame⟩ := hbs member hmember
    obtain ⟨c, hc, hsame'⟩ := hcs _ (Members.mem_of_lookup hb)
    exact ⟨c, hc, ih member hmember hsame hsame'⟩

end Relate

end Json

/-! ### Equality of numbers and of listed values -/

theorem Binary64.same_iff {x y : Binary64} : x.same y = true ↔ x.units = y.units := beq_iff_eq

theorem Number.same_trans {a b c : Number} (hab : a.same b = true) (hbc : b.same c = true) :
    a.same c = true := by
  cases a <;> cases b <;> cases c <;> simp_all [Number.same, Binary64.same_iff]

theorem Number.units_ofInt {count : Int}
    (inRange : -9223372036854775808 ≤ count ∧ count < 18446744073709551616) :
    (Number.ofInt count).units = count * Binary64.one := by
  rw [Number.ofInt, dif_pos inRange, Number.units]

theorem Number.units_eq_of_same {a b : Number} (h : a.same b = true) : a.units = b.units := by
  cases a with
  | integer m _ =>
    cases b with
    | integer n _ =>
      have hmn : m = n := beq_iff_eq.mp h
      rw [Number.units, Number.units, hmn]
    | real _ => cases h
  | real x =>
    cases b with
    | integer _ _ => cases h
    | real y => exact Binary64.same_iff.mp h

theorem Json.same_trans {a b c : Json} (hab : a.same b = true) (hbc : b.same c = true) :
    a.same c = true :=
  @Json.sameUpTo_trans Number.same Number.same_trans a b c hab hbc

theorem Number.same_toBinary64 {a b : Number} (h : a.same b = true) :
    a.toBinary64.same b.toBinary64 = true := by
  cases a with
  | integer i _ =>
    cases b with
    | integer j _ =>
      have heq : i = j := beq_iff_eq.mp h
      show (Binary64.ofInt i).same (Binary64.ofInt j) = true
      rw [heq]
      exact beq_self_eq_true _
    | real y => cases h
  | real x =>
    cases b with
    | integer j _ => cases h
    | real y => exact h

namespace Refinement

/-- What is equal to a listed value can be listed instead of it. -/
theorem sameValue_of_same {a b value : Json} (hab : a.same b = true)
    (h : sameValue b value = true) : sameValue a value = true := by
  -- numbers are listed by their nearest binary64 number, all other values as they are
  cases b with
  | number y =>
    cases a with
    | number x =>
      cases value with
      | number z =>
        have hxy := Binary64.same_iff.mp (Number.same_toBinary64 hab)
        have hyz := Binary64.same_iff.mp h
        exact Binary64.same_iff.mpr (hxy.trans hyz)
      | _ => exact Json.same_trans hab h
    | _ => cases hab
  | _ =>
    have htrans : a.same value = true := Json.same_trans hab h
    cases a with
    | number x => cases hab
    | _ => exact htrans

end Refinement

/-! ### Equality of facets and of parts -/

theorem relateOption_some {α β : Type} {related : α → β → Bool} {a : α} {other : Option β}
    (h : relateOption related (some a) other = true) :
    ∃ b, other = some b ∧ related a b = true := by
  cases other with
  | none => cases h
  | some b => exact ⟨b, rfl, h⟩

/-- Either nothing is related to nothing, or a value to a value. -/
theorem relateOption_cases {α β : Type} {related : α → β → Bool} {x : Option α} {y : Option β}
    (h : relateOption related x y = true) :
    (x = none ∧ y = none) ∨ ∃ a b, x = some a ∧ y = some b ∧ related a b = true := by
  cases x with
  | none => cases y <;> first | exact .inl ⟨rfl, rfl⟩ | cases h
  | some a =>
    obtain ⟨b, rfl, hab⟩ := relateOption_some h
    exact .inr ⟨a, b, rfl, rfl, hab⟩

theorem relateList_iff {α β : Type} {related : α → β → Bool} {as : List α} {bs : List β} :
    relateList related as bs = true ↔ List.Forall₂ (fun a b => related a b = true) as bs := by
  induction as generalizing bs with
  | nil => cases bs <;> simp [relateList]
  | cons a as ih => cases bs <;> simp [relateList, ih]

namespace TypeSpec

theorem same_single {type : TypeName} {spec : TypeSpec} (h : (single type).same spec = true) :
    spec = single type := by
  cases spec with
  | single other =>
    have heq : type = other := beq_iff_eq.mp h
    rw [heq]
  | _ => cases h

end TypeSpec

namespace Facets

variable {a b : Facets}

theorem same_number (h : a.same b = true) (keyword : NumberKeyword) :
    relateOption Number.same (a.number? keyword) (b.number? keyword) = true := by
  simp only [same, Bool.and_eq_true] at h
  exact List.all_eq_true.mp h.1.1.1.1.1.2 keyword (NumberKeyword.mem_all keyword)

theorem same_type (h : a.same b = true) : relateOption TypeSpec.same a.type b.type = true := by
  simp only [same, Bool.and_eq_true] at h
  exact h.1.1.1.1.2

theorem same_required (h : a.same b = true) : a.required = b.required := by
  simp only [same, Bool.and_eq_true] at h
  exact beq_iff_eq.mp h.1.1.1.2

theorem same_choices (h : a.same b = true) :
    relateOption Json.sameElements a.choices b.choices = true := by
  simp only [same, Bool.and_eq_true] at h
  exact h.1.2

end Facets

namespace Schema

variable {facets : Facets} {parts : Parts Schema} {schema : Schema}

theorem same_object (h : (object facets parts).same schema = true) :
    ∃ otherFacets otherParts, schema = object otherFacets otherParts
      ∧ facets.same otherFacets = true
      ∧ (parts.map same).relate (fun isSame other => isSame other) otherParts = true := by
  unfold same at h
  rw [fold_object] at h
  cases schema with
  | boolean accepts => cases h
  | object otherFacets otherParts =>
    rw [Bool.and_eq_true] at h
    exact ⟨otherFacets, otherParts, rfl, h⟩

/-- Equal schemas have the same single type, if they have one. -/
theorem isType_eq_of_same {other : Schema} (h : schema.same other = true) (type : TypeName) :
    schema.isType type = other.isType type := by
  cases schema with
  | boolean accepts =>
    cases other with
    | boolean _ => rfl
    | object _ _ => cases h
  | object facets parts =>
    obtain ⟨otherFacets, otherParts, rfl, hfacets, _⟩ := same_object h
    have hrelate := Facets.same_type hfacets
    show facets.type.any (·.is type) = otherFacets.type.any (·.is type)
    cases hown : facets.type with
    | none =>
      rw [hown] at hrelate
      cases hother : otherFacets.type with
      | none => rfl
      | some spec =>
        rw [hother] at hrelate
        cases hrelate
    | some own =>
      rw [hown] at hrelate
      obtain ⟨spec, hspec, hsame⟩ := relateOption_some hrelate
      rw [hspec]
      cases own with
      | single found => rw [TypeSpec.same_single hsame]
      | _ =>
        cases spec with
        | single found => cases hsame
        | _ => rfl

end Schema

namespace Parts

theorem mem_toList_of_properties {α : Type} {parts : Parts α} {members : Members α}
    (h : parts.properties = some members) {entry : String × α} (hentry : entry ∈ members) :
    entry.2 ∈ parts.toList := by
  have hvalue : entry.2 ∈ members.map Prod.snd := List.mem_map_of_mem hentry
  simp only [toList, h, Option.getD_some, List.mem_append, hvalue, true_or]

theorem mem_toList_of_items {α : Type} {parts : Parts α} {part : α}
    (h : parts.items = some (.single part)) : part ∈ parts.toList := by
  simp [toList, h, Items.toList]

theorem mem_toList_of_oneOf {α : Type} {parts : Parts α} {schemas : List α}
    (h : parts.oneOf = some schemas) {part : α} (hpart : part ∈ schemas) : part ∈ parts.toList := by
  simp [toList, h, hpart]

variable {parts others : Parts Schema}

theorem relate_properties
    (h : (parts.map Schema.same).relate (fun isSame other => isSame other) others = true)
    {members : Members Schema} (hmembers : parts.properties = some members) :
    ∃ otherMembers, others.properties = some otherMembers ∧ ∀ entry ∈ members,
      ∃ other, otherMembers.lookup entry.1 = some other ∧ entry.2.same other = true := by
  simp only [relate, Bool.and_eq_true] at h
  have hmap := List.all_eq_true.mp h.1.1.1 .properties (MapKeyword.mem_all _)
  simp only [map?, map, hmembers, Option.map_some] at hmap
  obtain ⟨otherMembers, hothers, hrelate⟩ := relateOption_some hmap
  refine ⟨otherMembers, hothers, ?_⟩
  intro entry hentry
  rw [Members.relate, Bool.and_eq_true, List.all_eq_true] at hrelate
  have hany := hrelate.2 (entry.1, entry.2.same) (List.mem_map.mpr ⟨entry, hentry, rfl⟩)
  exact (Option.any_eq_true ..).mp hany

theorem relate_items
    (h : (parts.map Schema.same).relate (fun isSame other => isSame other) others = true)
    {schema : Schema} (hitems : parts.items = some (.single schema)) :
    ∃ other, others.items = some (.single other) ∧ schema.same other = true := by
  simp only [relate, Bool.and_eq_true] at h
  have hrelate := h.2
  simp only [map, hitems, Option.map_some, Items.map] at hrelate
  obtain ⟨items, hothers, hsame⟩ := relateOption_some hrelate
  cases items with
  | tuple schemas => cases hsame
  | single other => exact ⟨other, hothers, hsame⟩

theorem relate_oneOf
    (h : (parts.map Schema.same).relate (fun isSame other => isSame other) others = true)
    {schemas : List Schema} (honeOf : parts.oneOf = some schemas) :
    ∃ otherSchemas, others.oneOf = some otherSchemas ∧
      List.Forall₂ (fun schema other => schema.same other = true) schemas otherSchemas := by
  simp only [relate, Bool.and_eq_true] at h
  have hlist := List.all_eq_true.mp h.1.1.2 .oneOf (ListKeyword.mem_all _)
  simp only [list?, map, honeOf, Option.map_some] at hlist
  obtain ⟨otherSchemas, hothers, hsame⟩ := relateOption_some hlist
  refine ⟨otherSchemas, hothers, ?_⟩
  rw [relateList_iff, List.forall₂_map_left_iff] at hsame
  exact hsame

end Parts

end JsonShape
