import JsonShape.Consistency.Tree
import JsonShape.Proofs.Members
import Mathlib.Data.List.Forall2
import Mathlib.Data.List.Nodup

/-!
# The keys of a schema's children

`Parts.walked` lists the sub-schemas that are checked with a schema, under keys that name their
places. `Parts.Child` says the same rule by rule (`Parts.mem_walked_iff`). Every keyword but
`properties` puts a label of its own before its keys, so those keys never meet. The names of
properties stand alone: a property may be called like the place of another sub-schema.

Main statement: `Parts.nodup_walked_iff`, the keys are different exactly if no property has such a
name.
-/

namespace JsonShape

namespace Parts

open Members

variable {α β : Type}

/-- Each keyword with named sub-schemas has every name once. -/
def UniqueNames (parts : Parts α) : Prop :=
  ∀ keyword : MapKeyword, (names ((parts.map? keyword).getD [])).Nodup

/-- The sub-schemas that are checked with a schema of a type, other than its properties, and the
keys of their places. -/
inductive KeywordChild (type : Option TypeName) (parts : Parts α) : String → α → Prop
  | pattern {regex part} : type = some .object → (regex, part) ∈ parts.patternProperties.getD [] →
      KeywordChild type parts ("pattern:" ++ regex) part
  | tuple {schemas part} {i : Nat} : type = some .array → parts.items = some (.tuple schemas) →
      schemas[i]? = some part → KeywordChild type parts s!"items[{i}]" part
  | items {part} : type = some .array → parts.items = some (.single part) →
      KeywordChild type parts "items" part
  | prefixItems {part} {i : Nat} : type = some .array →
      (parts.prefixItems.getD [])[i]? = some part →
      KeywordChild type parts s!"prefixItems[{i}]" part
  | allOf {part} {i : Nat} : (parts.allOf.getD [])[i]? = some part →
      KeywordChild type parts s!"allOf:{i}" part
  | anyOf {part} {i : Nat} : (parts.anyOf.getD [])[i]? = some part →
      KeywordChild type parts s!"anyOf:{i}" part
  | oneOf {part} {i : Nat} : (parts.oneOf.getD [])[i]? = some part →
      KeywordChild type parts s!"oneOf:{i}" part
  | negation {part} : parts.negation = some part → KeywordChild type parts "not" part
  | defs {name part} : (name, part) ∈ parts.defs.getD [] →
      KeywordChild type parts ("$defs:" ++ name) part
  | definitions {name part} : (name, part) ∈ parts.definitions.getD [] →
      KeywordChild type parts ("definitions:" ++ name) part

/-- The sub-schemas that are checked with a schema of a type, and the keys of their places. -/
inductive Child (type : Option TypeName) (parts : Parts α) : String → α → Prop
  | property {name part} : type = some .object → (name, part) ∈ parts.properties.getD [] →
      Child type parts name part
  | keyword {key part} : KeywordChild type parts key part → Child type parts key part

/-- No property is called like the place of another sub-schema. -/
def Unclashing (type : Option TypeName) (parts : Parts α) : Prop :=
  type = some .object → ∀ name ∈ names (parts.properties.getD []), ∀ part,
    ¬ KeywordChild type parts name part

/-! ### Places by number and by label -/

theorem mem_numbered {key : Nat → String} {schemas : List α} {place : String} {part : α} :
    (place, part) ∈ numbered key schemas ↔ ∃ i, schemas[i]? = some part ∧ key i = place := by
  simp only [numbered, List.mem_map, Prod.mk.injEq, Prod.exists, List.mem_zipIdx_iff_getElem?]
  constructor
  · rintro ⟨schema, i, hi, rfl, rfl⟩
    exact ⟨i, hi, rfl⟩
  · rintro ⟨i, hi, rfl⟩
    exact ⟨part, i, hi, rfl, rfl⟩

theorem mem_labelled {label place : String} {schemas : Members α} {part : α} :
    (place, part) ∈ labelled label schemas ↔
      ∃ name, (name, part) ∈ schemas ∧ label ++ name = place := by
  simp only [labelled, List.mem_map, Prod.mk.injEq, Prod.exists]
  constructor
  · rintro ⟨name, schema, h, rfl, rfl⟩
    exact ⟨name, h, rfl⟩
  · rintro ⟨name, h, rfl⟩
    exact ⟨name, part, h, rfl, rfl⟩

theorem names_numbered (key : Nat → String) (schemas : List α) :
    names (numbered key schemas) = (List.range schemas.length).map key := by
  have h : names (numbered key schemas) = (schemas.zipIdx.map Prod.snd).map key := by
    simp only [names, numbered, List.map_map, Function.comp_def]
  rw [h, List.zipIdx_map_snd, List.range_eq_range']

theorem names_labelled (label : String) (schemas : Members α) :
    names (labelled label schemas) = (names schemas).map (label ++ ·) := by
  simp [names, labelled, Function.comp_def]

theorem numbered_map (f : α → β) (key : Nat → String) (schemas : List α) :
    numbered key (schemas.map f) = mapMembers f (numbered key schemas) := by
  simp [numbered, mapMembers, List.zipIdx_map, Function.comp_def]

theorem labelled_mapMembers (f : α → β) (label : String) (schemas : Members α) :
    labelled label (mapMembers f schemas) = mapMembers f (labelled label schemas) := by
  simp [labelled, mapMembers, Function.comp_def]

/-! ### The list of places and the rules -/

/-- The children under the keyword `items`. -/
def itemsChildren (parts : Parts α) : Members α :=
  match parts.items with
  | some (.tuple schemas) => numbered (fun i => s!"items[{i}]") schemas
  | some (.single schema) => [("items", schema)]
  | none => []

/-- The children that are no properties, keyword by keyword. -/
def keywordChildren (type : Option TypeName) (parts : Parts α) : List (Members α) :=
  [if type = some .object then labelled "pattern:" (parts.patternProperties.getD []) else [],
   if type = some .array then itemsChildren parts else [],
   if type = some .array then
     numbered (fun i => s!"prefixItems[{i}]") (parts.prefixItems.getD [])
   else [],
   numbered (fun i => s!"allOf:{i}") (parts.allOf.getD []),
   numbered (fun i => s!"anyOf:{i}") (parts.anyOf.getD []),
   numbered (fun i => s!"oneOf:{i}") (parts.oneOf.getD []),
   (parts.negation.map ("not", ·)).toList,
   labelled "$defs:" (parts.defs.getD []),
   labelled "definitions:" (parts.definitions.getD [])]

/-- The properties of a schema of a type, if it is checked with them. -/
def propertyChildren (type : Option TypeName) (parts : Parts α) : Members α :=
  if type = some .object then parts.properties.getD [] else []

theorem walked_eq (type : Option TypeName) (parts : Parts α) :
    parts.walked type = propertyChildren type parts ++ (keywordChildren type parts).flatten := by
  unfold propertyChildren
  by_cases ho : type = some .object
  · subst ho
    simp [walked, ofObject, keywordChildren]
  · by_cases ha : type = some .array
    · subst ha
      have hitems : parts.ofArray = itemsChildren parts
          ++ numbered (fun i => s!"prefixItems[{i}]") (parts.prefixItems.getD []) := rfl
      simp [walked, hitems, keywordChildren]
    · simp [walked, keywordChildren, ho, ha]

theorem mem_itemsChildren {parts : Parts α} {key : String} {part : α} :
    (key, part) ∈ itemsChildren parts ↔
      (∃ schemas, parts.items = some (.tuple schemas) ∧
          ∃ i : Nat, schemas[i]? = some part ∧ s!"items[{i}]" = key)
        ∨ (parts.items = some (.single part) ∧ "items" = key) := by
  unfold itemsChildren
  rcases parts.items with _ | (schemas | schema)
  · simp
  · simp [mem_numbered]
  · simp only [List.mem_singleton, Prod.mk.injEq]
    grind

theorem mem_guarded {c : Prop} [Decidable c] {members : Members α} {entry : String × α} :
    entry ∈ (if c then members else []) ↔ c ∧ entry ∈ members := by
  split <;> simp [*]

theorem mem_keywordChildren {type : Option TypeName} {parts : Parts α} {key : String} {part : α} :
    (key, part) ∈ (keywordChildren type parts).flatten ↔ KeywordChild type parts key part := by
  simp only [keywordChildren, List.flatten_cons, List.flatten_nil, List.append_nil,
    List.mem_append, mem_guarded, mem_itemsChildren, mem_numbered, mem_labelled, Option.mem_toList,
    Option.map_eq_some_iff, Prod.mk.injEq]
  constructor
  · rintro (⟨ht, regex, h, rfl⟩ | ⟨ht, ⟨schemas, hs, i, h, rfl⟩ | ⟨h, rfl⟩⟩ | ⟨ht, i, h, rfl⟩
      | ⟨i, h, rfl⟩ | ⟨i, h, rfl⟩ | ⟨i, h, rfl⟩ | ⟨schema, h, rfl, rfl⟩ | ⟨name, h, rfl⟩
      | ⟨name, h, rfl⟩)
    · exact .pattern ht h
    · exact .tuple ht hs h
    · exact .items ht h
    · exact .prefixItems ht h
    · exact .allOf h
    · exact .anyOf h
    · exact .oneOf h
    · exact .negation h
    · exact .defs h
    · exact .definitions h
  · intro h
    cases h <;> grind

theorem mem_walked_iff {type : Option TypeName} {parts : Parts α} {key : String} {part : α} :
    (key, part) ∈ parts.walked type ↔ Child type parts key part := by
  rw [walked_eq, List.mem_append, propertyChildren, mem_guarded, mem_keywordChildren]
  constructor
  · rintro (⟨ht, h⟩ | h)
    · exact .property ht h
    · exact .keyword h
  · intro h
    cases h with
    | property ht h => exact .inl ⟨ht, h⟩
    | keyword h => exact .inr h

/-! ### Keys under different labels -/

/-- The keys begin with the text. -/
def BeginWith (label : String) (keys : List String) : Prop :=
  ∀ key ∈ keys, label.toList <+: key.toList

/-- Keys that begin with labels of which none begins with another are different. -/
theorem pairwise_disjoint_of_labels {labels : List String} {families : List (List String)}
    (starts : List.Forall₂ BeginWith labels families)
    (apart : labels.Pairwise fun p q => ¬ p.toList <+: q.toList ∧ ¬ q.toList <+: p.toList) :
    families.Pairwise List.Disjoint := by
  induction starts with
  | nil => exact List.Pairwise.nil
  | @cons label keys labels families hkeys hrest ih =>
    rw [List.pairwise_cons] at apart ⊢
    refine ⟨?_, ih apart.2⟩
    intro other hother key hkey hkey'
    obtain ⟨label', hlabel', hstart⟩ := exists_label hrest hother
    have hne := apart.1 label' hlabel'
    -- two labels at the start of one key: one of them begins with the other
    rcases List.prefix_or_prefix_of_prefix (hkeys key hkey) (hstart key hkey') with h | h
    · exact hne.1 h
    · exact hne.2 h
where
  exists_label {labels : List String} {families : List (List String)}
      (starts : List.Forall₂ BeginWith labels families) {keys : List String} (h : keys ∈ families) :
      ∃ label ∈ labels, BeginWith label keys := by
    induction starts with
    | nil => cases h
    | @cons label first labels families hfirst _ ih =>
      rcases List.mem_cons.mp h with rfl | hrest
      · exact ⟨label, List.mem_cons_self, hfirst⟩
      · obtain ⟨label', hmem, hstart⟩ := ih hrest
        exact ⟨label', List.mem_cons_of_mem _ hmem, hstart⟩

theorem prefix_append (label rest : String) : label.toList <+: (label ++ rest).toList := by
  rw [String.toList_append]
  exact List.prefix_append _ _

theorem toString_injective {i j : Nat} (h : toString i = toString j) : i = j := by
  -- the digits give the number back
  have hdigits : Nat.toDigits 10 i = Nat.toDigits 10 j := by
    simpa only [Nat.toString_eq_repr, Nat.toList_repr] using congrArg String.toList h
  simpa using congrArg (fun digits => Nat.ofDigitChars 10 digits 0) hdigits

/-- A number after a text is determined by the whole. -/
theorem counted_injective (label : String) :
    Function.Injective fun i : Nat => label ++ toString i := by
  intro i j h
  exact toString_injective ((String.append_right_inj label).mp h)

/-- A number between two texts is determined by the whole. -/
theorem enclosed_injective (label close : String) :
    Function.Injective fun i : Nat => label ++ toString i ++ close := by
  intro i j h
  exact counted_injective label ((String.append_left_inj close).mp h)

theorem labelled_injective (label : String) : Function.Injective (label ++ · : String → String) :=
  fun _ _ h => (String.append_right_inj label).mp h

theorem nodup_numbered {key : Nat → String} (inj : Function.Injective key) (schemas : List α) :
    (names (numbered key schemas)).Nodup := by
  rw [names_numbered]
  exact List.nodup_range.map inj

theorem nodup_labelled (label : String) {schemas : Members α} (nodup : (names schemas).Nodup) :
    (names (labelled label schemas)).Nodup := by
  rw [names_labelled]
  exact nodup.map (labelled_injective label)

/-! ### When the keys are different -/

/-- What the keys of each of these keywords begin with. -/
def keywordLabels : List String :=
  ["pattern:", "items", "prefixItems[", "allOf:", "anyOf:", "oneOf:", "not", "$defs:",
   "definitions:"]

theorem beginWith_labelled (label : String) (schemas : Members α) :
    BeginWith label (names (labelled label schemas)) := by
  intro key hkey
  rw [names_labelled] at hkey
  obtain ⟨name, _, rfl⟩ := List.mem_map.mp hkey
  exact prefix_append label name

theorem items_key (i : Nat) : s!"items[{i}]" = "items" ++ ("[" ++ toString i ++ "]") := by
  rw [← String.append_assoc, ← String.append_assoc]
  rfl

theorem prefixItems_key (i : Nat) :
    s!"prefixItems[{i}]" = "prefixItems[" ++ (toString i ++ "]") := by
  rw [← String.append_assoc]
  rfl

theorem beginWith_numbered {label : String} {key : Nat → String} (rest : Nat → String)
    (h : ∀ i, key i = label ++ rest i) (schemas : List α) :
    BeginWith label (names (numbered key schemas)) := by
  intro place hplace
  rw [names_numbered] at hplace
  obtain ⟨i, _, rfl⟩ := List.mem_map.mp hplace
  rw [h i]
  exact prefix_append label _

theorem beginWith_guarded {label : String} (c : Prop) [Decidable c] {schemas : Members α}
    (h : BeginWith label (names schemas)) :
    BeginWith label (names (if c then schemas else [])) := by
  split
  · exact h
  · intro key hkey
    cases hkey

theorem beginWith_itemsChildren (parts : Parts α) :
    BeginWith "items" (names (itemsChildren parts)) := by
  unfold itemsChildren
  split
  · next schemas _ =>
    exact beginWith_numbered (fun i => "[" ++ toString i ++ "]") items_key schemas
  · intro key hkey
    cases List.mem_singleton.mp hkey
    exact List.prefix_refl _
  · intro key hkey
    cases hkey

theorem keywordChildren_labels (type : Option TypeName) (parts : Parts α) :
    List.Forall₂ BeginWith keywordLabels ((keywordChildren type parts).map names) := by
  have hnot : BeginWith "not" (names (parts.negation.map ("not", ·)).toList) := by
    intro key hkey
    cases hn : parts.negation with
    | none => simp [hn] at hkey
    | some part =>
      rw [hn] at hkey
      cases List.mem_singleton.mp hkey
      exact List.prefix_refl _
  -- one step for each keyword, in the order in which the children are walked
  refine .cons (beginWith_guarded _ (beginWith_labelled _ _)) ?_
  refine .cons (beginWith_guarded _ (beginWith_itemsChildren parts)) ?_
  refine .cons (beginWith_guarded _ (beginWith_numbered _ prefixItems_key _)) ?_
  refine .cons (beginWith_numbered toString (fun _ => rfl) _) ?_
  refine .cons (beginWith_numbered toString (fun _ => rfl) _) ?_
  refine .cons (beginWith_numbered toString (fun _ => rfl) _) ?_
  exact .cons hnot (.cons (beginWith_labelled _ _) (.cons (beginWith_labelled _ _) .nil))

theorem nodup_guarded (c : Prop) [Decidable c] {schemas : Members α} (h : (names schemas).Nodup) :
    (names (if c then schemas else [])).Nodup := by
  split
  · exact h
  · exact List.nodup_nil

/-- Different keywords have different keys, whatever the names after their labels are. -/
theorem nodup_keywordChildren (type : Option TypeName) {parts : Parts α}
    (unique : parts.UniqueNames) : (names (keywordChildren type parts).flatten).Nodup := by
  have hflat : names (keywordChildren type parts).flatten
      = ((keywordChildren type parts).map names).flatten := List.map_flatten
  rw [hflat, List.nodup_flatten]
  -- no label begins with another, so only the keys under one label are left to compare
  refine ⟨?_, pairwise_disjoint_of_labels (keywordChildren_labels type parts) (by decide)⟩
  have hitems : (names (itemsChildren parts)).Nodup := by
    unfold itemsChildren
    split
    · exact nodup_numbered (enclosed_injective "items[" "]") _
    · exact List.nodup_singleton _
    · exact List.nodup_nil
  have hnot : (names (parts.negation.map ("not", ·)).toList).Nodup := by
    cases parts.negation with
    | none => exact List.nodup_nil
    | some part => exact List.nodup_singleton _
  simp only [keywordChildren, List.map_cons, List.map_nil, List.forall_mem_cons]
  refine ⟨nodup_guarded _ (nodup_labelled _ (unique .patternProperties)), nodup_guarded _ hitems,
    nodup_guarded _ (nodup_numbered (enclosed_injective "prefixItems[" "]") _),
    nodup_numbered (counted_injective "allOf:") _,
    nodup_numbered (counted_injective "anyOf:") _,
    nodup_numbered (counted_injective "oneOf:") _, hnot,
    nodup_labelled _ (unique .defs), nodup_labelled _ (unique .definitions), ?_⟩
  intro keys hkeys
  cases hkeys

theorem mem_names_keywordChildren {type : Option TypeName} {parts : Parts α} {key : String} :
    key ∈ names (keywordChildren type parts).flatten ↔
      ∃ part, KeywordChild type parts key part := by
  constructor
  · intro h
    obtain ⟨⟨_, part⟩, hmem, rfl⟩ := List.mem_map.mp h
    exact ⟨part, mem_keywordChildren.mp hmem⟩
  · rintro ⟨part, h⟩
    exact mem_names_of_mem (mem_keywordChildren.mpr h)

theorem nodup_propertyChildren (type : Option TypeName) {parts : Parts α}
    (unique : parts.UniqueNames) : (names (propertyChildren type parts)).Nodup :=
  nodup_guarded _ (unique .properties)

theorem unclashing_iff_disjoint {type : Option TypeName} {parts : Parts α} :
    Unclashing type parts ↔ List.Disjoint (names (propertyChildren type parts))
      (names (keywordChildren type parts).flatten) := by
  unfold Unclashing propertyChildren
  constructor
  · intro h key hkey hkey'
    obtain ⟨part, hpart⟩ := mem_names_keywordChildren.mp hkey'
    split at hkey
    · next ht => exact h ht key hkey part hpart
    · cases hkey
  · intro h ht name hname part hpart
    rw [if_pos ht] at h
    exact h hname (mem_names_keywordChildren.mpr ⟨part, hpart⟩)

/-- The keys are different exactly if no property is called like the place of another child. -/
theorem nodup_walked_iff {type : Option TypeName} {parts : Parts α} (unique : parts.UniqueNames) :
    (names (parts.walked type)).Nodup ↔ Unclashing type parts := by
  rw [walked_eq, names_append, List.nodup_append', unclashing_iff_disjoint]
  constructor
  · intro h
    exact h.2.2
  · intro h
    exact ⟨nodup_propertyChildren type unique, nodup_keywordChildren type unique, h⟩

/-! ### Children under a function -/

theorem itemsChildren_map (f : α → β) (parts : Parts α) :
    itemsChildren (parts.map f) = mapMembers f (itemsChildren parts) := by
  unfold itemsChildren
  rcases h : parts.items with _ | (schemas | schema)
  · simp [map, h, mapMembers]
  · simp [map, h, Items.map, numbered_map]
  · simp [map, h, Items.map, mapMembers]

theorem mapMembers_guarded (c : Prop) [Decidable c] (f : α → β) (members : Members α) :
    (if c then mapMembers f members else []) = mapMembers f (if c then members else []) := by
  split <;> rfl

theorem keywordChildren_map (type : Option TypeName) (f : α → β) (parts : Parts α) :
    keywordChildren type (parts.map f) = (keywordChildren type parts).map (mapMembers f) := by
  have hmembers : ∀ members : Option (Members α),
      (members.map (mapMembers f)).getD [] = mapMembers f (members.getD []) := by
    rintro (_ | members) <;> rfl
  have hlist : ∀ schemas : Option (List α),
      (schemas.map (List.map f)).getD [] = (schemas.getD []).map f := by
    rintro (_ | schemas) <;> rfl
  have hnot : ((parts.negation.map f).map ("not", ·)).toList
      = mapMembers f (parts.negation.map ("not", ·)).toList := by
    cases parts.negation <;> rfl
  simp only [keywordChildren, List.map_cons, List.map_nil, itemsChildren_map]
  simp only [map, hmembers, hlist, hnot, numbered_map, labelled_mapMembers, mapMembers_guarded]

theorem propertyChildren_map (type : Option TypeName) (f : α → β) (parts : Parts α) :
    propertyChildren type (parts.map f) = mapMembers f (propertyChildren type parts) := by
  unfold propertyChildren
  rw [← mapMembers_guarded]
  cases h : parts.properties <;> simp [map, h, mapMembers]

theorem walked_map (type : Option TypeName) (f : α → β) (parts : Parts α) :
    (parts.map f).walked type = mapMembers f (parts.walked type) := by
  have hflatten : ((keywordChildren type parts).map (mapMembers f)).flatten
      = mapMembers f (keywordChildren type parts).flatten := List.map_flatten.symm
  rw [walked_eq, walked_eq, propertyChildren_map, keywordChildren_map, hflatten]
  exact List.map_append.symm

end Parts

end JsonShape
