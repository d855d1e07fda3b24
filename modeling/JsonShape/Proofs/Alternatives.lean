import JsonShape.Proofs.Equivalence
import JsonShape.Inference.Infer

/-!
# Equality up to the order of alternatives

Which of two schemas stands first in a choice says nothing about the values. `Schema.equal` is
equality of schemas with a switch: the order of the alternatives of a choice counts at every depth,
and this is `Schema.same` (`Schema.equal_ordered`), or it does not, and this is `Schema.alike`. What
both have in common is said once, for either position of the switch.

Main statement: `Schema.equal_of_same`, equal schemas are alike.
-/

namespace JsonShape

/-- Whether the elements of two lists can be paired so that all pairs are related. -/
def relateShuffled {α β : Type} (related : α → β → Bool) : List α → List β → Bool
  | [], bs => bs.isEmpty
  | a :: as, bs => (List.range bs.length).any fun i =>
      (bs[i]?).any (related a) && relateShuffled related as (bs.eraseIdx i)

/-- How the lists of a keyword are compared: in order, or as alternatives if order does not count.
-/
def relateListed {α β : Type} (ordered : Bool) (keyword : ListKeyword) (related : α → β → Bool)
    (as : List α) (bs : List β) : Bool :=
  if ordered = true ∨ keyword ≠ .oneOf then relateList related as bs
  else relateShuffled related as bs

/-- Whether two containers of sub-schemas have the same form and related sub-schemas, with the
alternatives compared in order or not. -/
def Parts.equal {α β : Type} (ordered : Bool) (related : α → β → Bool) (a : Parts α)
    (b : Parts β) : Bool :=
  MapKeyword.all.all (fun keyword =>
      relateOption (Members.relate related) (a.map? keyword) (b.map? keyword))
    && ListKeyword.all.all (fun keyword =>
      relateOption (relateListed ordered keyword related) (a.list? keyword) (b.list? keyword))
    && SingleKeyword.all.all (fun keyword =>
      relateOption related (a.single? keyword) (b.single? keyword))
    && relateOption (Items.relate related) a.items b.items

namespace Schema

/-- Equality of schemas, in which the order of alternatives counts or does not. -/
def equal (ordered : Bool) : Schema → Schema → Bool :=
  fold
    (fun accepts => fun
      | boolean other => accepts == other
      | object _ _ => false)
    (fun facets parts => fun
      | boolean _ => false
      | object otherFacets otherParts =>
        facets.same otherFacets
          && parts.equal ordered (fun isEqual other => isEqual other) otherParts)

/-- Equality up to the order of alternatives at any depth. -/
def alike : Schema → Schema → Bool := equal false

end Schema

/-! ### Lists in another order -/

section Lists

variable {α β γ : Type} {related : α → β → Bool}

/-- Two lists can be paired if one can be brought into the order of the other. -/
theorem relateShuffled_iff {as : List α} {bs : List β} : relateShuffled related as bs = true ↔
    ∃ cs, cs.Perm bs ∧ List.Forall₂ (fun a b => related a b = true) as cs := by
  induction as generalizing bs with
  | nil =>
    rw [relateShuffled, List.isEmpty_iff]
    constructor
    · rintro rfl
      exact ⟨[], .nil, .nil⟩
    · rintro ⟨cs, hperm, hcs⟩
      cases hcs
      exact hperm.symm.eq_nil
  | cons a as ih =>
    rw [relateShuffled, List.any_eq_true]
    constructor
    · rintro ⟨i, hi, h⟩
      rw [Bool.and_eq_true, Option.any_eq_true] at h
      obtain ⟨⟨b, hb, hrelated⟩, hrest⟩ := h
      obtain ⟨cs, hperm, hcs⟩ := ih.mp hrest
      obtain ⟨hlt, rfl⟩ := List.getElem?_eq_some_iff.mp hb
      exact ⟨bs[i] :: cs, (hperm.cons _).trans (List.getElem_cons_eraseIdx_perm hlt),
        .cons hrelated hcs⟩
    · rintro ⟨cs, hperm, hcs⟩
      cases hcs with
      | @cons _ c _ rest hrelated hrest =>
        -- the partner of the first element stands somewhere, and is taken out there
        obtain ⟨i, hlt, rfl⟩ := List.getElem_of_mem (hperm.subset List.mem_cons_self)
        refine ⟨i, List.mem_range.mpr hlt, ?_⟩
        rw [Bool.and_eq_true, Option.any_eq_true]
        refine ⟨⟨_, List.getElem?_eq_getElem hlt, hrelated⟩, ih.mpr ⟨rest, ?_, hrest⟩⟩
        exact (hperm.trans (List.getElem_cons_eraseIdx_perm hlt).symm).cons_inv

theorem relateShuffled_map (f : α → β) {related : β → γ → Bool} (as : List α) (bs : List γ) :
    relateShuffled related (as.map f) bs = relateShuffled (fun a b => related (f a) b) as bs := by
  induction as generalizing bs with
  | nil => rfl
  | cons a as ih => simp only [List.map_cons, relateShuffled, ih]

theorem relateListed_map (ordered : Bool) (keyword : ListKeyword) (f : α → β)
    {related : β → γ → Bool} (as : List α) (bs : List γ) :
    relateListed ordered keyword related (as.map f) bs
      = relateListed ordered keyword (fun a b => related (f a) b) as bs := by
  rw [relateListed, relateListed, relateList_map, relateShuffled_map]

end Lists

/-! ### The fields of alike schemas -/

section Fields

variable {ordered : Bool}

theorem Parts.equal_map {α β γ : Type} (f : α → β) {related : β → γ → Bool} (parts : Parts α)
    (others : Parts γ) : (parts.map f).equal ordered related others
      = parts.equal ordered (fun a b => related (f a) b) others := by
  have hitems : (parts.map f).items = parts.items.map (Items.map f) := rfl
  simp only [equal, map?_map, list?_map, single?_map, hitems, relateOption_map,
    Members.relate_map, relateListed_map, Items.relate_map]

namespace Schema

theorem equal_object (facets facets' : Facets) (parts parts' : Parts Schema) :
    (object facets parts).equal ordered (object facets' parts')
      = (facets.same facets' && parts.equal ordered (equal ordered) parts') := by
  unfold equal
  rw [fold_object]
  dsimp only
  rw [Parts.equal_map]

/-- With the order of alternatives this is equality of schemas. -/
theorem equal_ordered : equal true = same := rfl

end Schema

/-! ### Schemas with one keyword of sub-schemas -/

namespace Parts

variable {α β : Type} (related : α → β → Bool)

theorem equal_properties (as : Members α) (bs : Members β) :
    equal ordered related { properties := some as } { properties := some bs }
      = Members.relate related as bs := by
  simp [equal, MapKeyword.all, ListKeyword.all, SingleKeyword.all, map?, list?, single?,
    relateOption]

theorem equal_items (a : α) (b : β) :
    equal ordered related { items := some (.single a) } { items := some (.single b) }
      = related a b := by
  simp [equal, MapKeyword.all, ListKeyword.all, SingleKeyword.all, map?, list?, single?,
    relateOption, Items.relate]

theorem equal_oneOf (as : List α) (bs : List β) :
    equal ordered related { oneOf := some as } { oneOf := some bs }
      = relateListed ordered .oneOf related as bs := by
  simp [equal, MapKeyword.all, ListKeyword.all, SingleKeyword.all, map?, list?, single?,
    relateOption]

end Parts

/-! ### Equal schemas are alike -/

section Imp

variable {α β : Type} {related weaker : α → β → Bool}

theorem relateOption_imp {a : Option α} {b : Option β}
    (imp : ∀ x, a = some x → ∀ y, related x y = true → weaker x y = true)
    (h : relateOption related a b = true) : relateOption weaker a b = true := by
  cases a with
  | none => cases b <;> exact h
  | some x =>
    obtain ⟨y, rfl, hrelated⟩ := relateOption_some h
    exact imp x rfl y hrelated

theorem relateList_imp {as : List α} {bs : List β}
    (imp : ∀ a ∈ as, ∀ b, related a b = true → weaker a b = true)
    (h : relateList related as bs = true) : relateList weaker as bs = true := by
  rw [relateList_iff] at h ⊢
  induction h with
  | nil => exact .nil
  | cons hhead _ ih =>
    rw [List.forall_mem_cons] at imp
    exact .cons (imp.1 _ hhead) (ih imp.2)

theorem Members.relate_imp {as : Members α} {bs : Members β}
    (imp : ∀ entry ∈ as, ∀ b, related entry.2 b = true → weaker entry.2 b = true)
    (h : relate related as bs = true) : relate weaker as bs = true := by
  obtain ⟨hlength, hall⟩ := relate_iff.mp h
  refine relate_iff.mpr ⟨hlength, fun entry hentry => ?_⟩
  obtain ⟨b, hb, hrelated⟩ := hall entry hentry
  exact ⟨b, hb, imp entry hentry b hrelated⟩

/-- Lists that are equal in order are equal in some order. -/
theorem relateListed_of_relateList {keyword : ListKeyword} {as : List α} {bs : List β}
    (h : relateList related as bs = true) : relateListed ordered keyword related as bs = true := by
  unfold relateListed
  split
  · exact h
  · exact relateShuffled_iff.mpr ⟨bs, .refl bs, relateList_iff.mp h⟩

end Imp

theorem Items.relate_imp {α β : Type} {related weaker : α → β → Bool} {a : Items α} {b : Items β}
    (imp : ∀ x ∈ a.toList, ∀ y, related x y = true → weaker x y = true)
    (h : relate related a b = true) : relate weaker a b = true := by
  cases a with
  | tuple as =>
    cases b with
    | tuple bs => exact relateList_imp imp h
    | single b => cases h
  | single a =>
    cases b with
    | tuple bs => cases h
    | single b => exact imp a (List.mem_singleton.mpr rfl) b h

theorem Parts.equal_of_relate {α β : Type} {related weaker : α → β → Bool} {parts : Parts α}
    {others : Parts β}
    (imp : ∀ part ∈ parts.toList, ∀ other, related part other = true → weaker part other = true)
    (h : parts.relate related others = true) : parts.equal ordered weaker others = true := by
  -- every sub-schema is in the content of a field
  have hfield : ∀ {k : Keyword} {content : Content α k}, field? {} parts k = some content →
      ∀ part ∈ content.toList, ∀ other, related part other = true → weaker part other = true :=
    fun hcontent part hpart => imp part ((mem_toList_iff {}).mpr ⟨_, _, hcontent, hpart⟩)
  simp only [relate, equal, Bool.and_eq_true, List.all_eq_true] at h ⊢
  obtain ⟨⟨⟨hmap, hlist⟩, hsingle⟩, hitems⟩ := h
  refine ⟨⟨⟨fun k hk => ?_, fun k hk => ?_⟩, fun k hk => ?_⟩, ?_⟩
  · refine relateOption_imp (fun members hmembers others => ?_) (hmap k hk)
    refine Members.relate_imp fun entry hentry => ?_
    exact hfield (k := .map k) hmembers entry.2 (List.mem_map_of_mem hentry)
  · refine relateOption_imp (fun schemas hschemas others hrelate => ?_) (hlist k hk)
    exact relateListed_of_relateList (relateList_imp (hfield (k := .list k) hschemas) hrelate)
  · refine relateOption_imp (fun schema hschema => ?_) (hsingle k hk)
    exact hfield (k := .single k) hschema schema (List.mem_singleton.mpr rfl)
  · exact relateOption_imp (fun items hitems others => Items.relate_imp
      (hfield (k := .items) hitems)) hitems

/-- Equal schemas are equal up to order. -/
theorem Schema.equal_of_same {schema other : Schema} (h : schema.same other = true) :
    schema.equal ordered other = true := by
  induction schema using Schema.induction generalizing other with
  | boolean accepts => cases other <;> exact h
  | object facets parts ih =>
    obtain ⟨facets', parts', rfl, -⟩ := same_object h
    rw [same_object_eq, Bool.and_eq_true] at h
    rw [equal_object, Bool.and_eq_true]
    exact ⟨h.1, Parts.equal_of_relate (fun part hpart other => ih part hpart) h.2⟩

end Fields

/-! ### Schemas of the forms that are inferred -/

namespace Schema

variable {ordered : Bool} {facets facets' : Facets}

theorem equal_oneOf (alternatives others : List Schema) :
    (oneOf alternatives).equal ordered (oneOf others)
      = relateListed ordered .oneOf (equal ordered) alternatives others := by
  rw [oneOf, oneOf, equal_object, Parts.equal_oneOf]
  rfl

theorem equal_array (a b : Schema) :
    (object facets { items := some (.single a) }).equal ordered
        (object facets' { items := some (.single b) })
      = (facets.same facets' && a.equal ordered b) := by
  rw [equal_object, Parts.equal_items]

theorem equal_objectSchema (properties others : Members Schema) (required names : List String) :
    (Inferrer.objectSchema properties required).equal ordered (Inferrer.objectSchema others names)
      = (Inferrer.sortedNames required == Inferrer.sortedNames names
        && Members.relate (equal ordered) properties others) := by
  rw [Inferrer.objectSchema, Inferrer.objectSchema, equal_object, Parts.equal_properties]
  congr 1
  simp [Facets.same, TextKeyword.all, NumberKeyword.all, Facets.text?, Facets.number?,
    relateOption, TypeSpec.same, Members.relate]

/-! ### What alike schemas share -/

theorem isType_eq_of_equal {schema other : Schema} (h : schema.equal ordered other = true)
    (type : TypeName) : schema.isType type = other.isType type := by
  cases schema with
  | boolean accepts =>
    cases other with
    | boolean _ => rfl
    | object _ _ => cases h
  | object facets parts =>
    cases other with
    | boolean _ => cases h
    | object facets' parts' =>
      rw [equal_object, Bool.and_eq_true] at h
      -- the type is among the facets, which are compared in the same way whatever the order
      have hfacets : (object facets {}).same (object facets' {}) = true := by
        rw [same_object_eq, h.1]
        rfl
      exact isType_eq_of_same hfacets type

/-- Alike schemas have alternatives of the same types. -/
theorem any_alternatives_eq_of_alike {schema other : Schema} (h : schema.alike other = true)
    (type : TypeName) : (schema.alternatives.any fun part => part.isType type)
      = other.alternatives.any fun part => part.isType type := by
  have htype := isType_eq_of_equal h type
  cases schema with
  | boolean accepts =>
    cases other with
    | boolean _ => rfl
    | object _ _ => cases h
  | object facets parts =>
    cases other with
    | boolean _ => cases h
    | object facets' parts' =>
      rw [alike, equal_object, Bool.and_eq_true] at h
      -- the alternatives are those of `oneOf`, or the schema itself where there is none
      have honeOf : relateOption (relateListed false .oneOf (equal false)) parts.oneOf parts'.oneOf
          = true := by
        have hparts := h.2
        simp only [Parts.equal, Bool.and_eq_true, List.all_eq_true] at hparts
        exact hparts.1.1.2 .oneOf (ListKeyword.mem_all _)
      show ((parts.oneOf).getD _).any _ = ((parts'.oneOf).getD _).any _
      cases hown : parts.oneOf with
      | none =>
        rw [hown] at honeOf
        cases hother : parts'.oneOf with
        | none => simp [htype]
        | some others =>
          rw [hother] at honeOf
          cases honeOf
      | some alternatives =>
        rw [hown] at honeOf
        obtain ⟨others, hothers, hlisted⟩ := relateOption_some honeOf
        obtain ⟨between, hperm, pairs⟩ := relateShuffled_iff.mp hlisted
        rw [hothers, Option.getD_some, Option.getD_some, ← hperm.any_eq]
        exact any_eq_of_forall₂ pairs fun _ _ hab => isType_eq_of_equal hab type

end Schema

end JsonShape
