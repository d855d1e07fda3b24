import JsonShape.Proofs.Saving

/-!
# Equality as an equivalence

Equality of values goes from the first to the second: every member of the one is looked up in the
other. Where no name is repeated it can be turned around, as both then have the same names
(`Json.same_symm`). Schemas are compared field by field, so the same holds of them.

Main statements: `Schema.same_trans`, equality of schemas is transitive, and
`Schema.UniqueNames.same_symm`, it is symmetric where no name is repeated.
-/

namespace JsonShape

/-! ### Members with related values -/

namespace Members

variable {α β γ : Type}

theorem relate_iff {related : α → β → Bool} {as : Members α} {bs : Members β} :
    relate related as bs = true ↔ as.length = bs.length
      ∧ ∀ entry ∈ as, ∃ b, bs.lookup entry.1 = some b ∧ related entry.2 b = true := by
  rw [relate, Bool.and_eq_true, beq_iff_eq, List.all_eq_true]
  refine and_congr_right fun _ => forall₂_congr fun entry _ => ?_
  exact Option.any_eq_true ..

theorem perm_names_of_relate {related : α → β → Bool} {as : Members α} {bs : Members β}
    (nodup : (names as).Nodup) (h : relate related as bs = true) : (names as).Perm (names bs) := by
  obtain ⟨hlength, hall⟩ := relate_iff.mp h
  -- there are as many names on both sides, so one inclusion is enough
  have hsubset : names as ⊆ names bs := by
    intro name hname
    obtain ⟨entry, hentry, rfl⟩ := List.mem_map.mp hname
    obtain ⟨b, hb, -⟩ := hall entry hentry
    exact mem_names_of_mem (mem_of_lookup hb)
  exact (List.subperm_of_subset nodup hsubset).perm_of_length_le (by simp [names, hlength])

/-- Members without repeated names have the same names as those they are related to, so each of
these can be looked up among them. -/
theorem relate_symm {related : α → β → Bool} {flipped : β → α → Bool} {as : Members α}
    {bs : Members β} (nodup : (names as).Nodup)
    (symm : ∀ entry ∈ as, ∀ b, related entry.2 b = true → flipped b entry.2 = true)
    (h : relate related as bs = true) : relate flipped bs as = true := by
  obtain ⟨hlength, hall⟩ := relate_iff.mp h
  have hperm := perm_names_of_relate nodup h
  refine relate_iff.mpr ⟨hlength.symm, ?_⟩
  rintro ⟨name, b⟩ hentry
  -- the partner of an entry has its name, and there is only one entry of that name
  obtain ⟨a, ha⟩ := exists_lookup (hperm.mem_iff.mpr (mem_names_of_mem hentry))
  obtain ⟨found, hfound, hrelated⟩ := hall (name, a) (mem_of_lookup ha)
  have heq : found = b := by
    rw [lookup_of_mem (hperm.nodup_iff.mp nodup) hentry] at hfound
    exact (Option.some.inj hfound).symm
  rw [heq] at hrelated
  exact ⟨a, ha, symm (name, a) (mem_of_lookup ha) b hrelated⟩

theorem relate_trans {first : α → β → Bool} {second : β → γ → Bool} {both : α → γ → Bool}
    {as : Members α} {bs : Members β} {cs : Members γ}
    (trans : ∀ entry ∈ as, ∀ b c, first entry.2 b = true → second b c = true →
      both entry.2 c = true)
    (hab : relate first as bs = true) (hbc : relate second bs cs = true) :
    relate both as cs = true := by
  obtain ⟨hlength, hall⟩ := relate_iff.mp hab
  obtain ⟨hlength', hall'⟩ := relate_iff.mp hbc
  refine relate_iff.mpr ⟨hlength.trans hlength', fun entry hentry => ?_⟩
  obtain ⟨b, hb, hfirst⟩ := hall entry hentry
  obtain ⟨c, hc, hsecond⟩ := hall' _ (mem_of_lookup hb)
  exact ⟨c, hc, trans entry hentry b c hfirst hsecond⟩

end Members

open Members

section Relate

variable {α β γ : Type}

theorem relateOption_symm {related : α → β → Bool} {flipped : β → α → Bool} {a : Option α}
    {b : Option β} (symm : ∀ x, a = some x → ∀ y, related x y = true → flipped y x = true)
    (h : relateOption related a b = true) : relateOption flipped b a = true := by
  cases a with
  | none => cases b <;> exact h
  | some x =>
    obtain ⟨y, rfl, hrelated⟩ := relateOption_some h
    exact symm x rfl y hrelated

theorem relateOption_trans {first : α → β → Bool} {second : β → γ → Bool} {both : α → γ → Bool}
    {a : Option α} {b : Option β} {c : Option γ}
    (trans : ∀ x, a = some x → ∀ y z, first x y = true → second y z = true → both x z = true)
    (hab : relateOption first a b = true) (hbc : relateOption second b c = true) :
    relateOption both a c = true := by
  cases a with
  | none =>
    cases b with
    | none => cases c <;> exact hbc
    | some y => cases hab
  | some x =>
    obtain ⟨y, rfl, hfirst⟩ := relateOption_some hab
    obtain ⟨z, rfl, hsecond⟩ := relateOption_some hbc
    exact trans x rfl y z hfirst hsecond

theorem relateList_symm {related : α → β → Bool} {flipped : β → α → Bool} {as : List α}
    {bs : List β} (symm : ∀ a ∈ as, ∀ b, related a b = true → flipped b a = true)
    (h : relateList related as bs = true) : relateList flipped bs as = true := by
  rw [relateList_iff] at h ⊢
  induction h with
  | nil => exact .nil
  | cons hhead _ ih =>
    rw [List.forall_mem_cons] at symm
    exact .cons (symm.1 _ hhead) (ih symm.2)

theorem relateList_trans {first : α → β → Bool} {second : β → γ → Bool} {both : α → γ → Bool}
    {as : List α} {bs : List β} {cs : List γ}
    (trans : ∀ a ∈ as, ∀ b c, first a b = true → second b c = true → both a c = true)
    (hab : relateList first as bs = true) (hbc : relateList second bs cs = true) :
    relateList both as cs = true := by
  rw [relateList_iff] at hab hbc ⊢
  induction hab generalizing cs with
  | nil =>
    cases hbc
    exact .nil
  | cons hhead _ ih =>
    rw [List.forall_mem_cons] at trans
    cases hbc with
    | cons hhead' htail' => exact .cons (trans.1 _ _ hhead hhead') (ih trans.2 htail')

end Relate

/-! ### Values -/

theorem Number.same_symm {a b : Number} (h : a.same b = true) : b.same a = true := by
  cases a <;> cases b <;> simp_all [Number.same, Binary64.same_iff]

namespace Json

theorem same_object {as bs : Members Json} :
    (object as).same (object bs) = true ↔ relate same as bs = true := by
  rw [relate_iff, same, sameUpTo, Bool.and_eq_true, beq_iff_eq, sameMembersUpTo_iff]

theorem same_array {as bs : List Json} :
    (array as).same (array bs) = true ↔ relateList same as bs = true := by
  rw [relateList_iff]
  exact sameElementsUpTo_iff

/-- Equality can be turned around where no name is repeated. -/
theorem same_symm {a b : Json} (unique : a.UniqueNames) (h : a.same b = true) :
    b.same a = true := by
  induction a using Json.induction generalizing b with
  | null => cases b <;> exact h
  | bool value =>
    cases b with
    | bool other => exact beq_iff_eq.mpr (beq_iff_eq.mp h : value = other).symm
    | _ => cases h
  | number value =>
    cases b with
    | number other => exact Number.same_symm h
    | _ => cases h
  | string value =>
    cases b with
    | string other => exact beq_iff_eq.mpr (beq_iff_eq.mp h : value = other).symm
    | _ => cases h
  | array as ih =>
    obtain ⟨bs, rfl, -⟩ := sameUpTo_array h
    refine same_array.mpr (relateList_symm (fun a ha b => ?_) (same_array.mp h))
    exact ih a ha (unique.of_mem_array ha)
  | object as ih =>
    obtain ⟨bs, rfl, -⟩ := sameUpTo_object h
    refine same_object.mpr (relate_symm unique.nodup (fun member hmember b => ?_)
      (same_object.mp h))
    exact ih member hmember (unique.of_mem_object hmember)

end Json

/-! ### Contents and schemas -/

namespace TypeSpec

variable {a b c : TypeSpec}

theorem same_symm (unique : a.toJson.UniqueNames) (h : a.same b = true) : b.same a = true := by
  cases a with
  | single type =>
    obtain rfl := same_single h
    exact h
  | several types =>
    cases b with
    | several others => exact beq_iff_eq.mpr (beq_iff_eq.mp h : types = others).symm
    | _ => cases h
  | other written =>
    cases b with
    | other found => exact Json.same_symm unique h
    | _ => cases h

theorem same_trans (hab : a.same b = true) (hbc : b.same c = true) : a.same c = true := by
  cases a with
  | single type =>
    obtain rfl := same_single hab
    exact hbc
  | several types =>
    cases b with
    | several others =>
      obtain rfl : types = others := beq_iff_eq.mp hab
      exact hbc
    | _ => cases hab
  | other written =>
    cases b with
    | other found =>
      cases c with
      | other last => exact Json.same_trans hab hbc
      | _ => cases hbc
    | _ => cases hab

end TypeSpec

namespace Content

variable {k : Keyword} {a b c : Content Schema k}

/-- Equality of contents can be turned around if that of their sub-schemas can. -/
theorem UniqueNames.same_symm (unique : a.UniqueNames)
    (parts : ∀ part ∈ a.toList, ∀ other : Schema, part.same other = true → other.same part = true)
    (h : a.same b = true) : b.same a = true := by
  cases k with
  | number k => exact Number.same_symm h
  | map k =>
    refine relate_symm unique (fun entry hentry => ?_) h
    exact parts entry.2 (List.mem_map_of_mem hentry)
  | list k => exact relateList_symm parts h
  | single k => exact parts a (List.mem_singleton.mpr rfl) b h
  | type => exact TypeSpec.same_symm unique h
  | choices =>
    have hvalues : (Json.array a).same (.array b) = true := h
    exact Json.same_symm (.array unique) hvalues
  | items =>
    cases a with
    | tuple schemas =>
      cases b with
      | tuple others => exact relateList_symm parts h
      | single other => cases h
    | single schema =>
      cases b with
      | tuple others => cases h
      | single other => exact parts schema (List.mem_singleton.mpr rfl) other h
  | _ => exact beq_iff_eq.mpr (beq_iff_eq.mp h : a = b).symm

/-- Equality of contents is transitive if that of their sub-schemas is. -/
theorem same_trans
    (parts : ∀ part ∈ a.toList, ∀ other third : Schema, part.same other = true →
      other.same third = true → part.same third = true)
    (hab : a.same b = true) (hbc : b.same c = true) : a.same c = true := by
  cases k with
  | number k => exact Number.same_trans hab hbc
  | map k =>
    refine relate_trans (fun entry hentry => ?_) hab hbc
    exact parts entry.2 (List.mem_map_of_mem hentry)
  | list k => exact relateList_trans parts hab hbc
  | single k => exact parts a (List.mem_singleton.mpr rfl) b c hab hbc
  | type => exact TypeSpec.same_trans hab hbc
  | choices =>
    have hfirst : (Json.array a).same (.array b) = true := hab
    have hsecond : (Json.array b).same (.array c) = true := hbc
    exact Json.same_trans hfirst hsecond
  | items =>
    cases a with
    | tuple schemas =>
      cases b with
      | tuple others =>
        cases c with
        | tuple thirds => exact relateList_trans parts hab hbc
        | single third => cases hbc
      | single other => cases hab
    | single schema =>
      cases b with
      | tuple others => cases hab
      | single other =>
        cases c with
        | tuple thirds => cases hbc
        | single third => exact parts schema (List.mem_singleton.mpr rfl) other third hab hbc
  | _ =>
    obtain rfl : a = b := beq_iff_eq.mp hab
    exact hbc

end Content

namespace Schema

/-- Equality of schemas is transitive. -/
theorem same_trans {a b c : Schema} (hab : a.same b = true) (hbc : b.same c = true) :
    a.same c = true := by
  induction a using Schema.induction generalizing b c with
  | boolean accepts =>
    cases b with
    | boolean other =>
      obtain rfl : accepts = other := beq_iff_eq.mp hab
      exact hbc
    | object facets parts => cases hab
  | object facets parts ih =>
    obtain ⟨facets', parts', rfl, -⟩ := same_object hab
    obtain ⟨facets'', parts'', rfl, -⟩ := same_object hbc
    obtain ⟨hfields, hextra⟩ := same_object_iff.mp hab
    obtain ⟨hfields', hextra'⟩ := same_object_iff.mp hbc
    refine same_object_iff.mpr ⟨fun k => ?_, ?_⟩
    · refine relateOption_trans (fun content hcontent other third => ?_) (hfields k) (hfields' k)
      refine Content.same_trans fun part hpart => ?_
      exact @ih part ((mem_toList_iff facets).mpr ⟨k, content, hcontent, hpart⟩)
    · exact relate_trans (fun _ _ _ _ => Json.same_trans) hextra hextra'

/-- Equality of schemas can be turned around where no name is repeated. -/
theorem UniqueNames.same_symm {a b : Schema} (unique : a.UniqueNames) (h : a.same b = true) :
    b.same a = true := by
  induction unique generalizing b with
  | @boolean accepts =>
    cases b with
    | boolean other => exact beq_iff_eq.mpr (beq_iff_eq.mp h : accepts = other).symm
    | object facets parts => cases h
  | @object facets parts hfacets _ ih =>
    obtain ⟨facets', parts', rfl, -⟩ := same_object h
    obtain ⟨hfields, hextra⟩ := same_object_iff.mp h
    refine same_object_iff.mpr ⟨fun k => ?_, ?_⟩
    · refine relateOption_symm (fun content hcontent other => ?_) (hfields k)
      refine (hfacets.fields hcontent).same_symm fun part hpart other => ?_
      exact ih part ((mem_toList_iff facets).mpr ⟨k, content, hcontent, hpart⟩)
    · refine relate_symm hfacets.names (fun member hmember b => ?_) hextra
      exact Json.same_symm (hfacets.values member hmember)

theorem Tidy.same_symm {a b : Schema} (tidy : a.Tidy) (h : a.same b = true) :
    b.same a = true :=
  tidy.uniqueNames.same_symm h

end Schema

/-! ### Inferred schemas are tidy -/

theorem Facets.Emitted.tidy {α : Type} {facets : Facets} {parts : Parts α}
    (hfacets : facets.Emitted) (hparts : parts.Emitted) : facets.Tidy parts where
  fields := by
    intro k content h
    cases k with
    | map k => exact (hparts.map k content h).2
    | type =>
      obtain ⟨type, rfl⟩ := hfacets.type content h
      show TypeSpec.ofJson? (.string type.name) = some (.single type)
      rw [TypeSpec.ofJson?, TypeName.ofName?_name]
      rfl
    | choices =>
      intro value hvalue
      have hlistable := hfacets.choices content h value hvalue
      cases value with
      | string text => exact .string
      | number number => exact .number
      | _ => cases hlistable
    | _ => trivial
  names := by
    rw [hfacets.extra]
    exact List.nodup_nil
  values := by
    rw [hfacets.extra]
    exact fun _ h => (by cases h)
  extra := by
    rw [hfacets.extra]
    rfl

theorem Schema.Emitted.tidy {schema : Schema} (emitted : schema.Emitted) : schema.Tidy := by
  induction emitted with
  | object hfacets hparts _ ih => exact .object (hfacets.tidy hparts) ih

end JsonShape
