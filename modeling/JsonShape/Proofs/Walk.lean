import JsonShape.Proofs.ChildNodes

/-!
# Walking a schema and its tree

A chain of keys leads from a schema through its children to a sub-schema. Where the keys of every
node on the way are different, the same chain leads through the tree of issues to the node of that
sub-schema, and the error count of the tree adds up the issues of all these sub-schemas.

Main statement: `Schema.issueTree_complete`, the tree of a schema is complete and can be addressed.
-/

namespace JsonShape

namespace Schema

open Members Parts

/-- The sub-schema that a chain of keys leads to. -/
inductive Reached : Schema → List String → Schema → Prop
  | here {schema} : Reached schema [] schema
  | through {facets parts key part path target} : Child facets.primaryType? parts key part →
      Reached part path target → Reached (object facets parts) (key :: path) target

/-- The children of a schema have different keys. -/
def KeysDistinct : Schema → Prop
  | boolean _ => True
  | object facets parts => (names (parts.walked facets.primaryType?)).Nodup

/-- The number of issues of a schema alone. -/
def ownIssueCount : Schema → Nat
  | boolean accepts => if accepts then 0 else 1
  | object facets _ => (facets.violations facets.primaryType?).length

/-- The list names every sub-schema that can be reached, once, by the keys that lead to it. -/
structure Enumerates (schema : Schema) (listing : List (List String × Schema)) : Prop where
  nodup : (listing.map Prod.fst).Nodup
  mem_iff : ∀ path target, (path, target) ∈ listing ↔ Reached schema path target

variable (messages : Messages) {facets : Facets} {parts : Parts Schema}

theorem mem_toList_of_child {type : Option TypeName} {key : String} {part : Schema}
    (h : Child type parts key part) : part ∈ parts.toList := by
  have hvalue : ∀ {members : Members Schema} {name : String}, (name, part) ∈ members →
      part ∈ members.map Prod.snd := fun hmem => List.mem_map.mpr ⟨_, hmem, rfl⟩
  have hplace : ∀ {schemas : List Schema} {i : Nat}, schemas[i]? = some part → part ∈ schemas :=
    fun hi => List.mem_of_getElem? hi
  unfold toList
  simp only [List.mem_append]
  cases h with
  | property _ h => simp only [hvalue h, true_or]
  | keyword h =>
    cases h with
    | pattern _ h => simp only [hvalue h, true_or, or_true]
    | tuple _ hitems h => simp [hitems, Items.toList, hplace h]
    | items _ h => simp [h, Items.toList]
    | prefixItems _ h => simp only [hplace h, true_or, or_true]
    | allOf h => simp only [hplace h, true_or, or_true]
    | anyOf h => simp only [hplace h, true_or, or_true]
    | oneOf h => simp only [hplace h, true_or, or_true]
    | negation h => simp [h]
    | defs h => simp only [hvalue h, true_or, or_true]
    | definitions h => simp only [hvalue h, or_true]

/-- What holds at every sub-schema of a schema holds at every sub-schema of its children. -/
theorem distinct_of_child {key : String} {part : Schema}
    (distinct : ∀ path target, Reached (object facets parts) path target → target.KeysDistinct)
    (child : Child facets.primaryType? parts key part) :
    ∀ path target, Reached part path target → target.KeysDistinct :=
  fun path target h => distinct (key :: path) target (.through child h)

/-! ### Addressing the tree -/

theorem children_of_distinct (distinct : (object facets parts).KeysDistinct) :
    ((object facets parts).issueTree messages).children
      = mapMembers (issueTree messages) (parts.walked facets.primaryType?) := by
  rw [issueTree_object]
  show mapMembers _ (Members.ofEntries _) = _
  rw [ofEntries_of_nodup distinct]

theorem lookup_children (distinct : (object facets parts).KeysDistinct) (key : String)
    (child : IssueTree) :
    ((object facets parts).issueTree messages).children.lookup key = some child ↔
      ∃ part, Child facets.primaryType? parts key part ∧ part.issueTree messages = child := by
  rw [children_of_distinct messages distinct, lookup_mapMembers, Option.map_eq_some_iff]
  constructor
  · rintro ⟨part, h, rfl⟩
    exact ⟨part, mem_walked_iff.mp (mem_of_lookup h), rfl⟩
  · rintro ⟨part, h, rfl⟩
    exact ⟨part, lookup_of_mem distinct (mem_walked_iff.mpr h), rfl⟩

theorem descend_issueTree (schema : Schema)
    (distinct : ∀ path target, Reached schema path target → target.KeysDistinct)
    (path : List String) (tree : IssueTree) :
    (schema.issueTree messages).descend path = some tree ↔
      ∃ target, Reached schema path target ∧ target.issueTree messages = tree := by
  induction path generalizing schema with
  | nil =>
    show some _ = some tree ↔ _
    rw [Option.some.injEq]
    constructor
    · intro h
      exact ⟨schema, .here, h⟩
    · rintro ⟨target, h, htree⟩
      cases h
      exact htree
  | cons key path ih =>
    cases schema with
    | boolean accepts =>
      constructor
      · intro h
        cases h
      · rintro ⟨target, h, _⟩
        cases h
    | object facets parts =>
      have hlookup := lookup_children messages (distinct [] _ .here) key
      rw [IssueTree.descend]
      constructor
      · intro h
        split at h
        · next child hchild =>
          obtain ⟨part, hpart, rfl⟩ := (hlookup child).mp hchild
          obtain ⟨target, htarget, htree⟩ := (ih part (distinct_of_child distinct hpart)).mp h
          exact ⟨target, .through hpart htarget, htree⟩
        · cases h
      · rintro ⟨target, h, htree⟩
        -- keys are distinct, so the child that the path goes through is the one that is found
        cases h with
        | through hpart htarget =>
          rw [(hlookup _).mpr ⟨_, hpart, rfl⟩]
          exact (ih _ (distinct_of_child distinct hpart)).mpr ⟨target, htarget, htree⟩

/-! ### Adding up the issues -/

theorem errorCount_boolean (accepts : Bool) :
    ((boolean accepts).issueTree messages).errorCount = (boolean accepts).ownIssueCount := by
  cases accepts <;> rfl

theorem enumerates_boolean (accepts : Bool) :
    Enumerates (boolean accepts) [([], boolean accepts)] where
  nodup := List.nodup_singleton _
  mem_iff := by
    intro path target
    rw [List.mem_singleton, Prod.mk.injEq]
    constructor
    · rintro ⟨rfl, rfl⟩
      exact .here
    · intro h
      cases h
      exact ⟨rfl, rfl⟩

/-- The sub-schemas below a child, by the keys that lead to them from its parent. -/
def listingBelow (listing : Schema → List (List String × Schema)) (child : String × Schema) :
    List (List String × Schema) :=
  (listing child.2).map fun place => (child.1 :: place.1, place.2)

theorem enumerates_object {listing : Schema → List (List String × Schema)}
    (distinct : (object facets parts).KeysDistinct)
    (below : ∀ key part, Child facets.primaryType? parts key part →
      Enumerates part (listing part)) :
    Enumerates (object facets parts) (([], object facets parts) ::
      (parts.walked facets.primaryType?).flatMap (listingBelow listing)) where
  nodup := by
    rw [List.map_cons, List.nodup_cons, List.map_flatMap]
    have hpaths : ∀ child : String × Schema, (listingBelow listing child).map Prod.fst
        = ((listing child.2).map Prod.fst).map (child.1 :: ·) := by
      intro child
      simp only [listingBelow, List.map_map, Function.comp_def]
    simp only [hpaths]
    refine ⟨by simp, List.nodup_flatMap.mpr ⟨?_, ?_⟩⟩
    · rintro ⟨key, part⟩ hchild
      exact (below key part (mem_walked_iff.mp hchild)).nodup.map (List.cons_injective)
    · -- different keys begin different paths
      refine (List.pairwise_map.mp distinct).imp ?_
      intro child other hne path hpath hpath'
      obtain ⟨rest, _, rfl⟩ := List.mem_map.mp hpath
      obtain ⟨rest', _, heq⟩ := List.mem_map.mp hpath'
      exact hne (List.cons.inj heq).1.symm
  mem_iff := by
    intro path target
    rw [List.mem_cons, List.mem_flatMap]
    constructor
    · rintro (h | ⟨⟨key, part⟩, hchild, h⟩)
      · cases h
        exact .here
      · obtain ⟨⟨path', target'⟩, hplace, heq⟩ := List.mem_map.mp h
        cases heq
        have hpart := mem_walked_iff.mp hchild
        exact .through hpart (((below key part hpart).mem_iff _ _).mp hplace)
    · intro h
      cases h with
      | here => exact .inl rfl
      | through hpart htarget =>
        refine .inr ⟨_, mem_walked_iff.mpr hpart, ?_⟩
        exact List.mem_map.mpr ⟨_, ((below _ _ hpart).mem_iff _ _).mpr htarget, rfl⟩

theorem errorCount_eq_sum (schema : Schema)
    (distinct : ∀ path target, Reached schema path target → target.KeysDistinct) :
    ∃ listing, Enumerates schema listing ∧ (schema.issueTree messages).errorCount
      = (listing.map fun place => place.2.ownIssueCount).sum := by
  induction schema using Schema.induction with
  | boolean accepts =>
    refine ⟨_, enumerates_boolean accepts, ?_⟩
    rw [errorCount_boolean messages]
    exact (Nat.add_zero _).symm
  | object facets parts ih =>
    have hbelow : ∀ key part, Child facets.primaryType? parts key part →
        ∃ listing, Enumerates part listing ∧ (part.issueTree messages).errorCount
          = (listing.map fun place => place.2.ownIssueCount).sum := fun key part child =>
      ih part (mem_toList_of_child child) (distinct_of_child distinct child)
    have hchoice : ∀ part : Schema, ∃ listing, ∀ key, Child facets.primaryType? parts key part →
        Enumerates part listing ∧ (part.issueTree messages).errorCount
          = (listing.map fun place => place.2.ownIssueCount).sum := by
      intro part
      by_cases hpart : ∃ key, Child facets.primaryType? parts key part
      · obtain ⟨key, hkey⟩ := hpart
        obtain ⟨listing, h⟩ := hbelow key part hkey
        exact ⟨listing, fun _ _ => h⟩
      · exact ⟨[], fun key hkey => absurd ⟨key, hkey⟩ hpart⟩
    -- a listing that does not depend on the key, as one part may stand under several
    choose listing hlisting using hchoice
    have hdistinct : (object facets parts).KeysDistinct := distinct [] _ .here
    refine ⟨_, enumerates_object hdistinct fun key part child => (hlisting part key child).1, ?_⟩
    -- both sides are the own issues plus a sum over the children
    rw [errorCount_object, ofEntries_of_nodup hdistinct, List.map_cons, List.sum_cons,
      List.map_flatMap, List.flatMap_def, List.sum_flatten, List.map_map]
    congr 1
    refine congrArg List.sum (List.map_congr_left ?_)
    rintro ⟨key, part⟩ hchild
    rw [(hlisting part key (mem_walked_iff.mp hchild)).2]
    simp only [listingBelow, List.map_map, Function.comp_def]

/-- The tree of a schema is complete and can be addressed: a chain of keys leads to a node exactly
if it leads to a sub-schema, and then to the node of that sub-schema. The error count is the number
of issues of all these sub-schemas, each counted alone. -/
theorem issueTree_complete (schema : Schema)
    (distinct : ∀ path target, Reached schema path target → target.KeysDistinct) :
    (∀ path tree, (schema.issueTree messages).descend path = some tree ↔
        ∃ target, Reached schema path target ∧ target.issueTree messages = tree)
      ∧ ∃ listing, Enumerates schema listing ∧ (schema.issueTree messages).errorCount
          = (listing.map fun place => place.2.ownIssueCount).sum :=
  ⟨descend_issueTree messages schema distinct, errorCount_eq_sum messages schema distinct⟩

/-- A property that accepts no value, and a negation. -/
def guardedParts : Parts Schema :=
  { properties := some [("a", boolean false)]
    negation := some (boolean true) }

theorem guardedParts_distinct : ∀ path target,
    Reached (object (Facets.typed .object) guardedParts) path target → target.KeysDistinct := by
  intro path target h
  cases h with
  | here =>
    show (names (guardedParts.walked (some .object))).Nodup
    decide
  | @through _ _ key part path target hpart htarget =>
    have hmem : part ∈ [boolean false, boolean true] := mem_toList_of_child hpart
    rcases List.mem_pair.mp hmem with rfl | rfl <;> cases htarget <;> exact trivial

theorem issueTree_complete_guarded :
    (∀ path target, Reached (object (Facets.typed .object) guardedParts) path target →
        target.KeysDistinct)
      ∧ ((object (Facets.typed .object) guardedParts).issueTree {}).descend ["a"]
          = some ((boolean false).issueTree {})
      ∧ ∃ listing, Enumerates (object (Facets.typed .object) guardedParts) listing
          ∧ 1 = (listing.map fun place => place.2.ownIssueCount).sum := by
  have hcomplete := issueTree_complete {} _ guardedParts_distinct
  refine ⟨guardedParts_distinct, (hcomplete.1 _ _).mpr ⟨boolean false, ?_, rfl⟩, hcomplete.2⟩
  exact .through (.property rfl List.mem_cons_self) .here

end Schema

end JsonShape
