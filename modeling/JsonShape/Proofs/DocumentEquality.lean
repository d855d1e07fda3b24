import JsonShape.Proofs.Misfits
import JsonShape.Proofs.ObjectArrays

/-!
# Equality of values and of their schemas

A member of an object goes into the field of its keyword or is kept as it is, and which of the two
depends only on the form of its value (`Keyword.fits_eq_of_same`). Fields are compared like the
values that they were read from (`Content.same_iff_of_ofJson?`), and so are the members that were
kept. What a schema is equal to is therefore decided by the values alone.

Main statement: `Schema.same_loaded_iff`, the schemas of two values are equal if and only if the
values are.
-/

namespace JsonShape

open Members

/-! ### Equal values have the form of the same fields -/

theorem Json.isSchema_eq_of_same {v w : Json} (h : v.same w = true) : v.isSchema = w.isSchema := by
  cases v <;> cases w <;> first | rfl | cases h

theorem Json.isString_eq_of_same {v w : Json} (h : v.same w = true) : v.isString = w.isString := by
  cases v <;> cases w <;> first | rfl | cases h

theorem all_eq_of_relateList {α β : Type} {related : α → β → Bool} {p : α → Bool} {q : β → Bool}
    {as : List α} {bs : List β} (h : relateList related as bs = true)
    (hpq : ∀ a b, related a b = true → p a = q b) : as.all p = bs.all q := by
  have hany := any_eq_of_forall₂ (p := fun a => !p a) (q := fun b => !q b) (relateList_iff.mp h)
    fun a b hab => congrArg (! ·) (hpq a b hab)
  rw [List.all_eq_not_any_not, hany, ← List.all_eq_not_any_not]

theorem Members.all_eq_of_relate {α β : Type} {related : α → β → Bool} {p : α → Bool} {q : β → Bool}
    {as : Members α} {bs : Members β} (nodup : (names as).Nodup) (h : relate related as bs = true)
    (hpq : ∀ a b, related a b = true → p a = q b) :
    (as.all fun entry => p entry.2) = bs.all fun entry => q entry.2 := by
  -- both directions are needed, so the relation is turned around
  have hback : relate (fun b a => related a b) bs as = true :=
    relate_symm nodup (fun _ _ _ hab => hab) h
  rw [Bool.eq_iff_iff, List.all_eq_true, List.all_eq_true]
  constructor
  · intro hall entry hentry
    obtain ⟨a, ha, hab⟩ := (relate_iff.mp hback).2 entry hentry
    rw [← hpq a entry.2 hab]
    exact hall _ (mem_of_lookup ha)
  · intro hall entry hentry
    obtain ⟨b, hb, hab⟩ := (relate_iff.mp h).2 entry hentry
    rw [hpq entry.2 b hab]
    exact hall _ (mem_of_lookup hb)

theorem Keyword.fits_eq_of_same (k : Keyword) {v w : Json} (unique : v.UniqueNames)
    (h : v.same w = true) : k.fits v = k.fits w := by
  have hlist {p : Json → Bool} (hp : ∀ a b : Json, a.same b = true → p a = p b) {vs ws : List Json}
      (h : (Json.array vs).same (.array ws) = true) : vs.all p = ws.all p :=
    all_eq_of_relateList (Json.same_array.mp h) hp
  cases v with
  | array vs =>
    cases w with
    | array ws =>
      cases k with
      | list k => exact hlist (fun _ _ => Json.isSchema_eq_of_same) h
      | items => exact hlist (fun _ _ => Json.isSchema_eq_of_same) h
      | type => exact hlist (fun _ _ => Json.isString_eq_of_same) h
      | required => exact hlist (fun _ _ => Json.isString_eq_of_same) h
      | _ => rfl
    | _ => cases h
  | object ms =>
    cases w with
    | object ns =>
      cases k with
      | map k =>
        exact all_eq_of_relate unique.nodup (Json.same_object.mp h)
          fun _ _ => Json.isSchema_eq_of_same
      | _ => rfl
    | _ => cases h
  | _ => cases w <;> first | (cases k <;> rfl) | cases h

/-! ### Strings and types -/

theorem Json.same_strings_iff {as bs : List String} :
    (Json.array (as.map .string)).same (.array (bs.map .string)) = true ↔ as = bs := by
  rw [same_array, relateList_iff, List.forall₂_map_left_iff, List.forall₂_map_right_iff,
    ← List.forall₂_eq_eq_eq]
  exact ⟨fun h => h.imp fun _ _ => beq_iff_eq.mp, fun h => h.imp fun _ _ => beq_iff_eq.mpr⟩

/-- What a type is read from consists of strings, so it is equal only to itself. -/
theorem TypeSpec.eq_of_same_read {v w : Json} {a b : TypeSpec} (hv : ofJson? v = some a)
    (hw : ofJson? w = some b) (h : v.same w = true) : v = w := by
  cases v with
  | string text =>
    cases w with
    | string other => exact congrArg Json.string (beq_iff_eq.mp h)
    | _ => cases h
  | array vs =>
    cases w with
    | array ws =>
      -- a list is read as types only if it consists of strings
      have hstrings {vs : List Json} {a : TypeSpec} (hv : ofJson? (.array vs) = some a) :
          ∃ texts : List String, texts.map .string = vs := by
        have hsome : Keyword.type.fits (.array vs) = true := by
          rw [← isSome_ofJson?, hv, Option.isSome_some]
        obtain ⟨texts, htexts⟩ := Option.isSome_iff_exists.mp
          ((Json.isSome_stringList? vs).trans hsome)
        exact ⟨texts, Json.map_of_stringList? htexts⟩
      obtain ⟨texts, rfl⟩ := hstrings hv
      obtain ⟨others, rfl⟩ := hstrings hw
      rw [Json.same_strings_iff.mp h]
    | _ => cases h
  | _ => cases hv

theorem TypeSpec.same_iff_of_ofJson? {v w : Json} {a b : TypeSpec} (hv : ofJson? v = some a)
    (hw : ofJson? w = some b) : a.same b = true ↔ v.same w = true := by
  have unique := uniqueNames_of_ofJson? hv
  constructor
  · intro h
    cases a with
    | single type =>
      obtain rfl := same_single h
      rw [← toJson_of_ofJson? hw, toJson_of_ofJson? hv]
      exact Json.same_refl unique
    | several types =>
      cases b with
      | several others =>
        obtain rfl : types = others := beq_iff_eq.mp h
        rw [← toJson_of_ofJson? hw, toJson_of_ofJson? hv]
        exact Json.same_refl unique
      | _ => cases h
    | other written =>
      cases b with
      | other found =>
        rw [← toJson_of_ofJson? hv, ← toJson_of_ofJson? hw]
        exact h
      | _ => cases h
  · intro h
    obtain rfl := eq_of_same_read hv hw h
    cases hv.symm.trans hw
    exact same_self (by rwa [toJson_of_ofJson? hv])

/-! ### Contents -/

namespace Schema

/-- A schema is equal to another exactly if the values are from which the two are read. -/
def ReadFaithfully (a : Schema) : Prop :=
  ∀ {v w : Json} {b : Schema}, v.UniqueNames → w.UniqueNames → ofJson? v = some a →
    ofJson? w = some b → (a.same b = true ↔ v.same w = true)

theorem relateList_iff_of_listOf? {vs ws : List Json} {as bs : List Schema}
    (unique : ∀ v ∈ vs, v.UniqueNames) (unique' : ∀ w ∈ ws, w.UniqueNames)
    (hvs : listOf? vs = some as) (hws : listOf? ws = some bs)
    (parts : ∀ part ∈ as, part.ReadFaithfully) :
    relateList same as bs = true ↔ relateList Json.same vs ws = true := by
  rw [listOf?_eq_some] at hvs hws
  induction vs generalizing ws as bs with
  | nil =>
    obtain rfl := List.map_eq_nil_iff.mp hvs.symm
    cases ws with
    | nil =>
      obtain rfl := List.map_eq_nil_iff.mp hws.symm
      exact Iff.rfl
    | cons w ws =>
      obtain ⟨b, bs, rfl, -, -⟩ := List.map_eq_cons_iff.mp hws.symm
      exact Iff.rfl
  | cons v vs ih =>
    obtain ⟨a, as, rfl, hv, hvs⟩ := List.map_eq_cons_iff.mp hvs.symm
    cases ws with
    | nil =>
      obtain rfl := List.map_eq_nil_iff.mp hws.symm
      exact Iff.rfl
    | cons w ws =>
      obtain ⟨b, bs, rfl, hw, hws⟩ := List.map_eq_cons_iff.mp hws.symm
      rw [List.forall_mem_cons] at unique unique' parts
      rw [relateList, relateList, Bool.and_eq_true, Bool.and_eq_true,
        parts.1 unique.1 unique'.1 hv.symm hw.symm,
        ih unique.2 unique'.2 hvs.symm hws.symm parts.2]

/-- What is read under a name. -/
theorem lookup_of_mapOf? {ms : Members Json} {as : Members Schema} (h : mapOf? ms = some as)
    (name : String) : (as.lookup name).map some = (ms.lookup name).map ofJson? := by
  rw [← lookup_mapMembers, ← lookup_mapMembers, mapOf?_eq_some.mp h]

theorem relate_iff_of_mapOf? {ms ns : Members Json} {as bs : Members Schema}
    (unique : (Json.object ms).UniqueNames) (unique' : (Json.object ns).UniqueNames)
    (hms : mapOf? ms = some as) (hns : mapOf? ns = some bs)
    (parts : ∀ entry ∈ as, entry.2.ReadFaithfully) :
    relate same as bs = true ↔ relate Json.same ms ns = true := by
  have nodup : (names as).Nodup := names_of_mapOf? hms ▸ unique.nodup
  have nodup' : (names bs).Nodup := names_of_mapOf? hns ▸ unique'.nodup
  rw [relate_iff_lookup nodup nodup', relate_iff_lookup unique.nodup unique'.nodup]
  refine forall_congr' fun name => ?_
  have ha := lookup_of_mapOf? hms name
  have hb := lookup_of_mapOf? hns name
  cases hv : ms.lookup name with
  | none =>
    rw [hv, Option.map_none, Option.map_eq_none_iff] at ha
    rw [ha]
    cases hw : ns.lookup name <;> cases hlookup : bs.lookup name <;>
      simp_all [relateOption]
  | some v =>
    rw [hv, Option.map_some] at ha
    obtain ⟨a, ha, hload⟩ := Option.map_eq_some_iff.mp ha
    rw [ha]
    cases hw : ns.lookup name with
    | none =>
      rw [hw, Option.map_none, Option.map_eq_none_iff] at hb
      rw [hb]
      exact Iff.rfl
    | some w =>
      rw [hw, Option.map_some] at hb
      obtain ⟨b, hb, hload'⟩ := Option.map_eq_some_iff.mp hb
      rw [hb]
      exact parts (name, a) (mem_of_lookup ha) (unique.of_mem_object (mem_of_lookup hv))
        (unique'.of_mem_object (mem_of_lookup hw)) hload.symm hload'.symm

end Schema

/-- Contents are equal exactly if the values are from which they are read. -/
theorem Content.same_iff_of_ofJson? {k : Keyword} {v w : Json} {c d : Content Schema k}
    (unique : v.UniqueNames) (unique' : w.UniqueNames) (hv : ofJson? k v = some c)
    (hw : ofJson? k w = some d) (parts : ∀ part ∈ c.toList, part.ReadFaithfully) :
    c.same d = true ↔ v.same w = true := by
  cases k with
  | text k =>
    cases v <;> cases hv
    cases w <;> cases hw
    exact Iff.rfl
  | number k =>
    cases v <;> cases hv
    cases w <;> cases hw
    exact Iff.rfl
  | uniqueItems =>
    cases v <;> cases hv
    cases w <;> cases hw
    exact Iff.rfl
  | choices =>
    cases v <;> cases hv
    cases w <;> cases hw
    exact Iff.rfl
  | type => exact TypeSpec.same_iff_of_ofJson? hv hw
  | single k => exact parts c (List.mem_singleton.mpr rfl) unique unique' hv hw
  | required =>
    cases v with
    | array vs =>
      cases w with
      | array ws =>
        rw [← Json.map_of_stringList? hv, ← Json.map_of_stringList? hw, Json.same_strings_iff]
        exact beq_iff_eq
      | _ => cases hw
    | _ => cases hv
  | map k =>
    cases v with
    | object ms =>
      cases w with
      | object ns =>
        rw [Json.same_object]
        exact Schema.relate_iff_of_mapOf? unique unique' hv hw fun entry hentry =>
          parts entry.2 (List.mem_map_of_mem hentry)
      | _ => cases hw
    | _ => cases hv
  | list k =>
    cases v with
    | array vs =>
      cases w with
      | array ws =>
        rw [Json.same_array]
        exact Schema.relateList_iff_of_listOf? (fun v hv => unique.of_mem_array hv)
          (fun w hw => unique'.of_mem_array hw) hv hw parts
      | _ => cases hw
    | _ => cases hv
  | items =>
    obtain ⟨vs, as, rfl, rfl, hvs⟩ | ⟨a, rfl, ha⟩ := items_cases hv
    · obtain ⟨ws, bs, rfl, rfl, hws⟩ | ⟨b, rfl, hb⟩ := items_cases hw
      · rw [Json.same_array]
        exact Schema.relateList_iff_of_listOf? (fun v hv => unique.of_mem_array hv)
          (fun w hw => unique'.of_mem_array hw) hvs hws parts
      · -- a single schema is no list
        refine iff_of_false Bool.false_ne_true fun h => ?_
        obtain ⟨ws, rfl, -⟩ := Json.sameUpTo_array h
        cases (Schema.isSome_ofJson? (.array ws)).symm.trans (Option.isSome_of_eq_some hb)
    · obtain ⟨ws, bs, rfl, rfl, hws⟩ | ⟨b, rfl, hb⟩ := items_cases hw
      · refine iff_of_false Bool.false_ne_true fun h => ?_
        have hsome := (Schema.isSome_ofJson? v).symm.trans (Option.isSome_of_eq_some ha)
        rw [Json.isSchema_eq_of_same h] at hsome
        cases hsome
      · exact parts a (List.mem_singleton.mpr rfl) unique unique' ha hb

/-! ### Schemas -/

namespace Schema

/-- What stands under a keyword is compared in the field or among the other keywords. -/
theorem relateOption_content_iff (k : Keyword) {x y : Option Json}
    (unique : ∀ v, x = some v → v.UniqueNames) (unique' : ∀ w, y = some w → w.UniqueNames)
    (parts : ∀ content, x.bind (Content.ofJson? k) = some content →
      ∀ part ∈ content.toList, part.ReadFaithfully) :
    relateOption Json.same x y = true ↔
      relateOption Content.same (x.bind (Content.ofJson? k)) (y.bind (Content.ofJson? k)) = true
        ∧ relateOption Json.same (x.filter fun v => (Content.ofJson? k v).isNone)
            (y.filter fun w => (Content.ofJson? k w).isNone) = true := by
  have hkept (v : Json) (h : Content.ofJson? k v = none) :
      (some v).filter (fun v => (Content.ofJson? k v).isNone) = some v := by
    rw [Option.filter_some, h, Option.isNone_none, if_pos rfl]
  have hread {v : Json} {c : Content Schema k} (h : Content.ofJson? k v = some c) :
      (some v).filter (fun v => (Content.ofJson? k v).isNone) = none := by
    rw [Option.filter_some, h, Option.isNone_some, if_neg Bool.false_ne_true]
  cases x with
  | none =>
    cases y with
    | none => exact ⟨fun _ => ⟨rfl, rfl⟩, fun _ => rfl⟩
    | some w => cases hw : Content.ofJson? k w <;> simp [relateOption, hw]
  | some v =>
    cases y with
    | none => cases hv : Content.ofJson? k v <;> simp [relateOption, hv]
    | some w =>
      -- a value that is read is not equal to one that is kept
      have hfits (h : v.same w = true) :
          (Content.ofJson? k v).isSome = (Content.ofJson? k w).isSome := by
        rw [Content.isSome_ofJson?, Content.isSome_ofJson?, k.fits_eq_of_same (unique v rfl) h]
      rw [Option.bind_some, Option.bind_some]
      cases hv : Content.ofJson? k v with
      | none =>
        rw [hkept v hv]
        cases hw : Content.ofJson? k w with
        | none =>
          rw [hkept w hw]
          exact ⟨fun h => ⟨rfl, h⟩, And.right⟩
        | some d =>
          refine iff_of_false (fun h => ?_) fun h => Bool.false_ne_true h.1
          rw [hv, hw] at hfits
          cases hfits h
      | some c =>
        rw [hread hv]
        cases hw : Content.ofJson? k w with
        | none =>
          refine iff_of_false (fun h => ?_) fun h => Bool.false_ne_true h.1
          rw [hv, hw] at hfits
          cases hfits h
        | some d =>
          rw [hread hw]
          have hiff := Content.same_iff_of_ofJson? (unique v rfl) (unique' w rfl) hv hw
            (parts c hv)
          exact ⟨fun h => ⟨hiff.mpr h, rfl⟩, fun h => hiff.mp h.1⟩

/-- A value that has not the form of its field is kept under its keyword. -/
theorem lookup_unfielded_name {ms : Members Json} (nodup : (names ms).Nodup) (k : Keyword) :
    (unfielded ms).lookup k.name
      = (ms.lookup k.name).filter fun v => (Content.ofJson? k v).isNone := by
  refine Option.ext fun v => ?_
  rw [Option.filter_eq_some_iff, lookup_eq_some_iff (nodup_unfielded nodup),
    lookup_eq_some_iff nodup, mem_unfielded, Option.isNone_iff_eq_none]
  refine and_congr_right fun _ => ⟨fun h => h k rfl, fun h other hname => ?_⟩
  rwa [Keyword.name_injective hname]

/-- A name that is no keyword is kept whatever stands under it. -/
theorem lookup_unfielded_of_none {ms : Members Json} (nodup : (names ms).Nodup) {name : String}
    (hname : Keyword.ofName? name = none) : (unfielded ms).lookup name = ms.lookup name := by
  refine Option.ext fun v => ?_
  rw [lookup_eq_some_iff (nodup_unfielded nodup), lookup_eq_some_iff nodup, mem_unfielded]
  refine and_iff_left_of_imp fun _ k hk => ?_
  obtain rfl : k.name = name := hk
  rw [Keyword.ofName?_name] at hname
  cases hname

theorem LoadedFrom.same_iff {ms ns : Members Json} {facets facets' : Facets}
    {parts parts' : Parts Schema} (loaded : LoadedFrom ms facets parts)
    (loaded' : LoadedFrom ns facets' parts') (unique : (Json.object ms).UniqueNames)
    (unique' : (Json.object ns).UniqueNames)
    (hparts : ∀ part ∈ parts.toList, part.ReadFaithfully) :
    (object facets parts).same (object facets' parts') = true ↔
      (Json.object ms).same (.object ns) = true := by
  -- a member under a keyword is compared in the field or among the other members, never in both
  have hkeyword (k : Keyword) :
      relateOption Json.same (ms.lookup k.name) (ns.lookup k.name) = true ↔
        relateOption Content.same (field? facets parts k) (field? facets' parts' k) = true
          ∧ relateOption Json.same ((unfielded ms).lookup k.name) ((unfielded ns).lookup k.name)
            = true := by
    rw [loaded.fields, loaded'.fields, lookup_unfielded_name unique.nodup,
      lookup_unfielded_name unique'.nodup]
    refine relateOption_content_iff k (fun v hv => unique.of_mem_object (mem_of_lookup hv))
      (fun w hw => unique'.of_mem_object (mem_of_lookup hw)) fun content hcontent part hpart => ?_
    rw [← loaded.fields] at hcontent
    exact hparts part ((mem_toList_iff facets).mpr ⟨k, content, hcontent, hpart⟩)
  rw [same_object_iff, loaded.extra, loaded'.extra, Json.same_object,
    relate_iff_lookup (nodup_unfielded unique.nodup) (nodup_unfielded unique'.nodup),
    relate_iff_lookup unique.nodup unique'.nodup]
  constructor
  · rintro ⟨hfields, hextra⟩ name
    -- a name is that of a keyword, or it is kept on both sides
    cases hname : Keyword.ofName? name with
    | none =>
      have h := hextra name
      rwa [lookup_unfielded_of_none unique.nodup hname,
        lookup_unfielded_of_none unique'.nodup hname] at h
    | some k =>
      obtain rfl := Keyword.name_of_ofName? hname
      exact (hkeyword k).mpr ⟨hfields k, hextra k.name⟩
  · intro h
    refine ⟨fun k => ((hkeyword k).mp (h k.name)).1, fun name => ?_⟩
    cases hname : Keyword.ofName? name with
    | none =>
      rw [lookup_unfielded_of_none unique.nodup hname,
        lookup_unfielded_of_none unique'.nodup hname]
      exact h name
    | some k =>
      obtain rfl := Keyword.name_of_ofName? hname
      exact ((hkeyword k).mp (h k.name)).2

/-- Every schema is read faithfully: whether it is equal to another is decided by the values. -/
theorem readFaithfully (schema : Schema) : schema.ReadFaithfully := by
  -- the values are read anew in every part, so the induction is on the schema
  induction schema using Schema.induction with
  | boolean accepts =>
    intro v w b unique unique' hv hw
    obtain ⟨_, rfl, heq⟩ | ⟨_, _, _, -, heq, -⟩ := ofJson?_cases unique hv
    · cases heq
      obtain ⟨_, rfl, rfl⟩ | ⟨_, _, _, rfl, rfl, -⟩ := ofJson?_cases unique' hw
      · exact Iff.rfl
      · exact iff_of_false Bool.false_ne_true Bool.false_ne_true
    · cases heq
  | object facets parts ih =>
    intro v w b unique unique' hv hw
    obtain ⟨_, -, heq⟩ | ⟨ms, _, _, rfl, heq, loaded⟩ := ofJson?_cases unique hv
    · cases heq
    · cases heq
      obtain ⟨_, rfl, rfl⟩ | ⟨ns, _, _, rfl, rfl, loaded'⟩ := ofJson?_cases unique' hw
      · exact iff_of_false Bool.false_ne_true Bool.false_ne_true
      · exact loaded.same_iff loaded' unique unique' ih

/-- Loading neither merges nor splits: the schemas of two values are equal if and only if the values
are. -/
theorem same_loaded_iff {v w : Json} {a b : Schema} (unique : v.UniqueNames)
    (unique' : w.UniqueNames) (hv : ofJson v = .ok a) (hw : ofJson w = .ok b) :
    a.same b = true ↔ v.same w = true :=
  a.readFaithfully unique unique' (ofJson_eq_ok.mp hv) (ofJson_eq_ok.mp hw)

end Schema

end JsonShape
