import JsonShape.Proofs.DocumentEquality
import JsonShape.Proofs.KeyOrder
import JsonShape.Proofs.Findings

/-!
# Equality of trees

The rules of a type compare numbers by value and ask which keywords are present, so equal facets
have the same violations. The children of a node are found by their keys: where a property is called
like the place of another child, the other child is the one that is found, whatever the order of
the properties is. Equal schemas therefore have equal trees, in which the order of children does not
count.

Main statement: by `Schema.same_documents_iff` two documents have equal schemas if and only if they
are equal, and equal documents have equal trees.
-/

namespace JsonShape

open Members

/-! ### Related options -/

section Options

variable {α β : Type} {related : α → β → Bool} {x x' : Option α} {y y' : Option β}

theorem all_eq_of_relateOption {p : α → Bool} {q : β → Bool} (h : relateOption related x y = true)
    (hpq : ∀ a b, related a b = true → p a = q b) : x.all p = y.all q := by
  obtain ⟨rfl, rfl⟩ | ⟨a, b, rfl, rfl, hab⟩ := relateOption_cases h
  · rfl
  · exact hpq a b hab

theorem relateOption_getD (h : relateOption related x y = true) {a : α} {b : β}
    (hdefault : related a b = true) : related (x.getD a) (y.getD b) = true := by
  obtain ⟨rfl, rfl⟩ | ⟨_, _, rfl, rfl, hab⟩ := relateOption_cases h
  · exact hdefault
  · exact hab

theorem relateOption_or (h : relateOption related x y = true)
    (h' : relateOption related x' y' = true) :
    relateOption related (x.or x') (y.or y') = true := by
  obtain ⟨rfl, rfl⟩ | ⟨_, _, rfl, rfl, hab⟩ := relateOption_cases h
  · exact h'
  · exact hab

end Options

/-! ### The rules on equal facets -/

theorem TypeSpec.primary?_eq_of_same {a b : TypeSpec} (h : a.same b = true) :
    a.primary? = b.primary? := by
  cases a with
  | single type => rw [same_single h]
  | several types =>
    cases b with
    | several others =>
      obtain rfl : types = others := beq_iff_eq.mp h
      rfl
    | _ => cases h
  | other written =>
    cases b with
    | other found =>
      have hsame : written.same found = true := h
      cases written with
      | array vs =>
        obtain ⟨ws, rfl, hpairs⟩ := Json.sameUpTo_array hsame
        cases hpairs with
        | nil => rfl
        -- only the first element of a list counts
        | @cons v w _ _ hhead _ =>
          cases v with
          | string text =>
            cases w with
            | string other =>
              obtain rfl : text = other := beq_iff_eq.mp hhead
              rfl
            | _ => cases hhead
          | _ => cases w <;> first | rfl | cases hhead
      | _ => cases found <;> first | rfl | cases hsame
    | _ => cases h

/-- Bounds count by their values. -/
theorem rangeConsistent_congr {min min' max max' : Option Binary64}
    (hmin : relateOption Binary64.same min min' = true)
    (hmax : relateOption Binary64.same max max' = true) (minExclusive maxExclusive : Bool) :
    rangeConsistent (min.map .finite) minExclusive (max.map .finite) maxExclusive
      = rangeConsistent (min'.map .finite) minExclusive (max'.map .finite) maxExclusive := by
  obtain ⟨rfl, rfl⟩ | ⟨low, low', rfl, rfl, hlow⟩ := relateOption_cases hmin
  · rfl
  · obtain ⟨rfl, rfl⟩ | ⟨high, high', rfl, rfl, hhigh⟩ := relateOption_cases hmax
    · rfl
    · have hlow : low.units = low'.units := Binary64.same_iff.mp hlow
      have hhigh : high.units = high'.units := Binary64.same_iff.mp hhigh
      simp only [Option.map_some, rangeConsistent, Extended.sub, Extended.lt, Binary64.lt, hlow,
        hhigh]

namespace Facets

variable {a b : Facets}

theorem primaryType?_eq_of_same (h : a.same b = true) : a.primaryType? = b.primaryType? := by
  unfold primaryType?
  obtain ⟨ha, hb⟩ | ⟨_, _, ha, hb, hsame⟩ := relateOption_cases (same_type h)
  · rw [ha, hb]
  · rw [ha, hb]
    exact TypeSpec.primary?_eq_of_same hsame

theorem same_extra (h : a.same b = true) : relate Json.same a.extra b.extra = true := by
  simp only [same, Bool.and_eq_true] at h
  exact h.2

theorem same_bound? (h : a.same b = true) (k : NumberKeyword) :
    relateOption Binary64.same (a.bound? k) (b.bound? k) = true := by
  unfold bound?
  obtain ⟨ha, hb⟩ | ⟨_, _, ha, hb, hsame⟩ := relateOption_cases (same_number h k)
  · rw [ha, hb]
    rfl
  · rw [ha, hb]
    exact Number.same_toBinary64 hsame

/-- A condition on a bound that looks only at its value. -/
theorem all_bound?_eq_of_same (h : a.same b = true) (k : NumberKeyword) {p q : Binary64 → Bool}
    (hpq : ∀ x y : Binary64, x.units = y.units → p x = q y) :
    (a.bound? k).all p = (b.bound? k).all q :=
  all_eq_of_relateOption (same_bound? h k) fun x y hsame => hpq x y (Binary64.same_iff.mp hsame)

theorem misfits_eq_of_same (h : a.same b = true) (nodup : (names a.extra).Nodup)
    (keywords : List Keyword) : a.misfits keywords = b.misfits keywords := by
  have hperm := perm_names_of_relate nodup (same_extra h)
  have hmisfit : a.isMisfit = b.isMisfit := by
    funext k
    rw [Bool.eq_iff_iff]
    show contains a.extra k.name = true ↔ contains b.extra k.name = true
    rw [contains_iff, contains_iff, hperm.mem_iff]
  rw [misfits, misfits, hmisfit]

theorem countViolations_eq_of_same (h : a.same b = true) (k : NumberKeyword) :
    a.countViolations k = b.countViolations k := by
  unfold countViolations
  obtain ⟨ha, hb⟩ | ⟨_, _, ha, hb, hsame⟩ := relateOption_cases (same_number h k)
  · rw [ha, hb]
  · rw [ha, hb]
    have hunits := Binary64.same_iff.mp (Number.same_toBinary64 hsame)
    simp only [Number.isWhole_eq_of_same hsame, hunits]

theorem consistent_eq_of_same (h : a.same b = true) (min : NumberKeyword) (minExclusive : Bool)
    (max : NumberKeyword) (maxExclusive : Bool) :
    a.consistent min minExclusive max maxExclusive
      = b.consistent min minExclusive max maxExclusive :=
  rangeConsistent_congr (same_bound? h min) (same_bound? h max) _ _

theorem rangeViolation_eq_of_same (h : a.same b = true) (min max : NumberKeyword)
    (violation : Violation) :
    a.rangeViolation min max violation = b.rangeViolation min max violation := by
  rw [rangeViolation, rangeViolation, consistent_eq_of_same h]

theorem choiceInRange_eq_of_same (h : a.same b = true) {v w : Json} (hvw : v.same w = true) :
    a.choiceInRange v = b.choiceInRange w := by
  cases v with
  | number number =>
    cases w with
    | number other =>
      have hunits := Binary64.same_iff.mp (Number.same_toBinary64 hvw)
      unfold choiceInRange
      refine congrArg₂ and (congrArg₂ and (congrArg₂ and ?_ ?_) ?_) ?_ <;>
        refine all_bound?_eq_of_same h _ fun x y hxy => ?_ <;>
        simp only [Binary64.lt, hxy, hunits]
    | _ => cases hvw
  | _ => cases w <;> first | rfl | cases hvw

theorem choices_eq_of_same (h : a.same b = true) :
    a.choices.all (·.all a.choiceInRange) = b.choices.all (·.all b.choiceInRange) := by
  refine all_eq_of_relateOption (same_choices h) fun _ _ hsame => ?_
  exact all_eq_of_relateList (Json.same_array.mp hsame) fun _ _ => choiceInRange_eq_of_same h

theorem numberViolations_eq_of_same (h : a.same b = true) (nodup : (names a.extra).Nodup) :
    a.numberViolations = b.numberViolations := by
  have hpositive : (a.bound? .multipleOf).any (fun x => decide (x.units ≤ 0))
      = (b.bound? .multipleOf).any (fun x => decide (x.units ≤ 0)) := by
    obtain ⟨ha, hb⟩ | ⟨_, _, ha, hb, hsame⟩ := relateOption_cases (same_bound? h .multipleOf)
    · rw [ha, hb]
    · rw [ha, hb, Option.any_some, Option.any_some, Binary64.same_iff.mp hsame]
  have hmin : a.minimum.isSome = b.minimum.isSome :=
    Inferrer.isSome_eq_of_relate (same_number h .minimum)
  have hmax : a.maximum.isSome = b.maximum.isSome :=
    Inferrer.isSome_eq_of_relate (same_number h .maximum)
  have hexclusiveMin : a.exclusiveMinimum.isSome = b.exclusiveMinimum.isSome :=
    Inferrer.isSome_eq_of_relate (same_number h .exclusiveMinimum)
  have hexclusiveMax : a.exclusiveMaximum.isSome = b.exclusiveMaximum.isSome :=
    Inferrer.isSome_eq_of_relate (same_number h .exclusiveMaximum)
  unfold numberViolations boundsConsistent
  rw [misfits_eq_of_same h nodup, hpositive, hmin, hmax, hexclusiveMin, hexclusiveMax,
    choices_eq_of_same h]
  simp only [consistent_eq_of_same h]

/-- Equal facets break the same rules. -/
theorem violations_eq_of_same (h : a.same b = true) (nodup : (names a.extra).Nodup)
    (type : Option TypeName) : a.violations type = b.violations type := by
  cases type with
  | none => rfl
  | some type =>
    cases type with
    | number => exact numberViolations_eq_of_same h nodup
    | string | array | object =>
      simp only [violations, stringViolations, arrayViolations, objectViolations,
        misfits_eq_of_same h nodup, countViolations_eq_of_same h, rangeViolation_eq_of_same h]
    | _ => rfl

end Facets

/-! ### What is found under a key -/

namespace Members

variable {α β : Type} {related : α → β → Bool}

/-- What is found in two lists under each key is related. -/
def Agree (related : α → β → Bool) (as : Members α) (bs : Members β) : Prop :=
  ∀ key, relateOption related (as.lookup key) (bs.lookup key) = true

theorem Agree.append {as as' : Members α} {bs bs' : Members β} (h : Agree related as bs)
    (h' : Agree related as' bs') : Agree related (as ++ as') (bs ++ bs') := by
  intro key
  rw [List.lookup_append, List.lookup_append]
  exact relateOption_or (h key) (h' key)

theorem agree_flatten {families : List (Members α)} {others : List (Members β)}
    (h : List.Forall₂ (Agree related) families others) :
    Agree related families.flatten others.flatten := by
  induction h with
  | nil => exact fun _ => rfl
  | cons hhead _ ih => exact hhead.append ih

theorem agree_guarded {as : Members α} {bs : Members β} (c : Prop) [Decidable c]
    (h : Agree related as bs) : Agree related (if c then as else []) (if c then bs else []) := by
  split
  · exact h
  · exact fun _ => rfl

theorem agree_of_forall₂ {as : Members α} {bs : Members β}
    (h : List.Forall₂ (fun a b => a.1 = b.1 ∧ related a.2 b.2 = true) as bs) :
    Agree related as bs := by
  intro key
  induction h with
  | nil => rfl
  | @cons a b _ _ hhead _ ih =>
    rw [lookup_cons, lookup_cons, hhead.1]
    split
    · exact hhead.2
    · exact ih

end Members

namespace Parts

variable {α β : Type} {related : α → β → Bool} {parts : Parts α} {others : Parts β}

theorem agree_numbered (key : Nat → String) {as : List α} {bs : List β}
    (h : relateList related as bs = true) :
    Agree related (numbered key as) (numbered key bs) := by
  refine agree_of_forall₂ ?_
  unfold numbered
  rw [List.forall₂_map_left_iff, List.forall₂_map_right_iff]
  generalize 0 = start
  rw [relateList_iff] at h
  induction h generalizing start with
  | nil => exact .nil
  | cons hhead _ ih => exact .cons ⟨rfl, hhead⟩ (ih (start + 1))

theorem lookup_labelled (label name : String) (schemas : Members α) :
    (labelled label schemas).lookup (label ++ name) = schemas.lookup name := by
  induction schemas with
  | nil => rfl
  | cons entry rest ih =>
    obtain ⟨key, schema⟩ := entry
    show List.lookup (label ++ name) ((label ++ key, schema) :: labelled label rest) = _
    rw [lookup_cons, lookup_cons, ih]
    exact if_congr (labelled_injective label).eq_iff rfl rfl

theorem agree_labelled (label : String) {as : Members α} {bs : Members β}
    (nodup : (names as).Nodup) (h : Members.relate related as bs = true) :
    Agree related (labelled label as) (labelled label bs) := by
  have nodup' := (perm_names_of_relate nodup h).nodup_iff.mp nodup
  refine (relate_iff_lookup (nodup_labelled label nodup) (nodup_labelled label nodup')).mp ?_
  obtain ⟨hlength, hall⟩ := relate_iff.mp h
  refine relate_iff.mpr ⟨by simpa [labelled] using hlength, List.forall_mem_map.mpr ?_⟩
  intro entry hentry
  rw [lookup_labelled]
  exact hall entry hentry

/-- The fields with sub-schemas of related parts. -/
theorem relate_fields (h : parts.relate related others = true) :
    (∀ k, relateOption (Members.relate related) (parts.map? k) (others.map? k) = true)
      ∧ (∀ k, relateOption (relateList related) (parts.list? k) (others.list? k) = true)
      ∧ (∀ k, relateOption related (parts.single? k) (others.single? k) = true)
      ∧ relateOption (Items.relate related) parts.items others.items = true := by
  simp only [relate, Bool.and_eq_true, List.all_eq_true] at h
  obtain ⟨⟨⟨hmap, hlist⟩, hsingle⟩, hitems⟩ := h
  exact ⟨fun k => hmap k k.mem_all, fun k => hlist k k.mem_all, fun k => hsingle k k.mem_all,
    hitems⟩

theorem relate_imp {parts others : Parts Schema} {related weaker : Schema → Schema → Bool}
    (imp : ∀ part ∈ parts.toList, ∀ other, related part other = true → weaker part other = true)
    (h : parts.relate related others = true) : parts.relate weaker others = true := by
  have hequal : parts.equal true weaker others = true := Parts.equal_of_relate imp h
  exact hequal

theorem relate_getD_map? (h : parts.relate related others = true) (k : MapKeyword) :
    Members.relate related ((parts.map? k).getD []) ((others.map? k).getD []) = true :=
  relateOption_getD ((relate_fields h).1 k) rfl

theorem relate_getD_list? (h : parts.relate related others = true) (k : ListKeyword) :
    relateList related ((parts.list? k).getD []) ((others.list? k).getD []) = true :=
  relateOption_getD ((relate_fields h).2.1 k) rfl

theorem UniqueNames.of_relate (unique : parts.UniqueNames)
    (h : parts.relate related others = true) : others.UniqueNames := fun k =>
  (perm_names_of_relate (unique k) (relate_getD_map? h k)).nodup_iff.mp (unique k)

theorem agree_itemsChildren (h : parts.relate related others = true) :
    Agree related (itemsChildren parts) (itemsChildren others) := by
  unfold itemsChildren
  obtain ⟨ha, hb⟩ | ⟨a, b, ha, hb, hrelate⟩ := relateOption_cases (relate_fields h).2.2.2
  · rw [ha, hb]
    exact fun _ => rfl
  · rw [ha, hb]
    cases a with
    | tuple as =>
      cases b with
      | tuple bs => exact agree_numbered _ hrelate
      | single b => cases hrelate
    | single a =>
      cases b with
      | tuple bs => cases hrelate
      | single b => exact agree_of_forall₂ (.cons ⟨rfl, hrelate⟩ .nil)

theorem agree_negation (h : parts.relate related others = true) :
    Agree related (parts.negation.map ("not", ·)).toList
      (others.negation.map ("not", ·)).toList := by
  have hnegation : relateOption related parts.negation others.negation = true :=
    (relate_fields h).2.2.1 .negation
  obtain ⟨ha, hb⟩ | ⟨a, b, ha, hb, hrelate⟩ := relateOption_cases hnegation
  · rw [ha, hb]
    exact fun _ => rfl
  · rw [ha, hb]
    exact agree_of_forall₂ (.cons ⟨rfl, hrelate⟩ .nil)

theorem agree_keywordChildren (type : Option TypeName) (unique : parts.UniqueNames)
    (h : parts.relate related others = true) :
    Agree related (keywordChildren type parts).flatten (keywordChildren type others).flatten := by
  have hmap (label : String) (k : MapKeyword) := agree_labelled label (unique k)
    (relate_getD_map? h k)
  have hlist (key : Nat → String) (k : ListKeyword) := agree_numbered key (relate_getD_list? h k)
  refine agree_flatten ?_
  refine .cons (agree_guarded _ (hmap "pattern:" .patternProperties)) ?_
  refine .cons (agree_guarded _ (agree_itemsChildren h)) ?_
  refine .cons (agree_guarded _ (hlist _ .prefixItems)) ?_
  refine .cons (hlist _ .allOf) (.cons (hlist _ .anyOf) (.cons (hlist _ .oneOf) ?_))
  exact .cons (agree_negation h) (.cons (hmap "$defs:" .defs)
    (.cons (hmap "definitions:" .definitions) .nil))

/-- Related parts have related children under the same keys. Where a property and another child have
one key, the other child is found on both sides. -/
theorem agree_walked (type : Option TypeName) (unique : parts.UniqueNames)
    (h : parts.relate related others = true) :
    Agree related (ofEntries (parts.walked type)) (ofEntries (others.walked type)) := by
  -- the child of a keyword is found before a property with its key, so the two families are
  -- compared apart
  have unique' := unique.of_relate h
  have hproperties : Agree related (propertyChildren type parts) (propertyChildren type others) :=
    agree_guarded _ ((relate_iff_lookup (unique .properties) (unique' .properties)).mp
      (relate_getD_map? h .properties))
  intro key
  rw [walked_eq, walked_eq, lookup_ofEntries_append (nodup_propertyChildren type unique)
      (nodup_keywordChildren type unique),
    lookup_ofEntries_append (nodup_propertyChildren type unique')
      (nodup_keywordChildren type unique')]
  exact relateOption_or (agree_keywordChildren type unique h key) (hproperties key)

end Parts

/-! ### Equal trees -/

/-- Related members have the same sum, if related values count alike. -/
theorem Members.sum_eq_of_relate {α β : Type} {related : α → β → Bool} {as : Members α}
    {bs : Members β} {f : α → Nat} {g : β → Nat} (nodup : (names as).Nodup)
    (h : relate related as bs = true) (hfg : ∀ a b, related a b = true → f a = g b) :
    (as.map fun entry => f entry.2).sum = (bs.map fun entry => g entry.2).sum := by
  -- both sums go over names, and the names are the same up to order
  let count (name : String) : Nat := ((bs.lookup name).map g).getD 0
  have hperm := perm_names_of_relate nodup h
  have hleft : (as.map fun entry => f entry.2) = (names as).map count := by
    rw [names, List.map_map]
    refine List.map_congr_left fun entry hentry => ?_
    obtain ⟨b, hb, hab⟩ := (relate_iff.mp h).2 entry hentry
    show f entry.2 = ((bs.lookup entry.1).map g).getD 0
    rw [hb]
    exact hfg _ _ hab
  have hright : (bs.map fun entry => g entry.2) = (names bs).map count := by
    rw [names, List.map_map]
    refine List.map_congr_left fun entry hentry => ?_
    show g entry.2 = ((bs.lookup entry.1).map g).getD 0
    rw [lookup_of_mem (hperm.nodup_iff.mp nodup) hentry]
    rfl
  rw [hleft, hright, (hperm.map count).sum_nat]

namespace IssueTree

mutual

/-- Equality of trees. The order of the children does not count. -/
def same : IssueTree → IssueTree → Bool
  | node type issues children errorCount, node type' issues' children' errorCount' =>
    type == type' && issues == issues' && errorCount == errorCount'
      && children.length == children'.length && sameChildren children children'

/-- Whether every child in the first list has an equal node under its key in the second. -/
def sameChildren : List (String × IssueTree) → List (String × IssueTree) → Bool
  | [], _ => true
  | (key, child) :: rest, others =>
    (match others.lookup key with
      | some other => same child other
      | none => false) && sameChildren rest others

end

/-- What a node says itself. -/
def label (tree : IssueTree) : Option CheckedType × List Issue × Nat :=
  (tree.type, tree.issues, tree.errorCount)

theorem sameChildren_iff {children others : Members IssueTree} :
    sameChildren children others = true ↔ ∀ child ∈ children,
      ∃ other, others.lookup child.1 = some other ∧ child.2.same other = true := by
  induction children with
  | nil => simp [sameChildren]
  | cons child rest ih =>
    obtain ⟨key, child⟩ := child
    rw [sameChildren, Bool.and_eq_true, ih, List.forall_mem_cons]
    refine and_congr_left fun _ => ?_
    cases others.lookup key <;> simp

theorem same_iff {tree other : IssueTree} : tree.same other = true ↔
    tree.label = other.label ∧ relate same tree.children other.children = true := by
  obtain ⟨type, issues, children, errorCount⟩ := tree
  obtain ⟨type', issues', children', errorCount'⟩ := other
  rw [relate_iff, same]
  simp only [Bool.and_eq_true, beq_iff_eq, sameChildren_iff, label, Prod.mk.injEq, and_assoc]
  exact Iff.rfl

/-- Nodes with the same issues and equal children are equal. -/
theorem same_ofIssues (type : Option CheckedType) (issues : List Issue)
    {children others : Members IssueTree} (nodup : (names children).Nodup)
    (h : relate same children others = true) :
    (ofIssues type issues children).same (ofIssues type issues others) = true := by
  have hcount : totalCount children = totalCount others := by
    rw [totalCount_eq, totalCount_eq]
    refine sum_eq_of_relate nodup h fun tree other hsame => ?_
    have hlabel := (same_iff.mp hsame).1
    rw [label, label, Prod.mk.injEq, Prod.mk.injEq] at hlabel
    exact hlabel.2.2
  refine same_iff.mpr ⟨?_, h⟩
  rw [ofIssues, ofIssues, hcount]
  rfl

end IssueTree

namespace Schema

open Parts

variable {a b : Schema} {facets : Facets} {parts : Parts Schema}

theorem UniqueNames.of_object (unique : (Schema.object facets parts).UniqueNames) :
    facets.UniqueNames parts ∧ parts.UniqueNames
      ∧ ∀ part ∈ parts.toList, part.UniqueNames := by
  cases unique with
  | object hfacets hparts =>
    refine ⟨hfacets, fun k => ?_, hparts⟩
    cases hmap : parts.map? k with
    | none => exact List.nodup_nil
    | some schemas => exact hfacets.fields (k := .map k) hmap

/-- Equal schemas have equal trees. -/
theorem same_issueTree (unique : a.UniqueNames) (h : a.same b = true) (messages : Messages) :
    (a.issueTree messages).same (b.issueTree messages) = true := by
  induction a using Schema.induction generalizing b with
  | boolean accepts =>
    cases b with
    | boolean other =>
      obtain rfl : accepts = other := beq_iff_eq.mp h
      exact IssueTree.same_ofIssues _ _ List.nodup_nil rfl
    | object facets parts => cases h
  | object facets parts ih =>
    obtain ⟨facets', parts', rfl, -⟩ := same_object h
    rw [same_object_eq, Bool.and_eq_true] at h
    obtain ⟨hfacets, hparts, hbelow⟩ := unique.of_object
    -- the parts have equal trees by induction, and so have the children that are walked
    have hrelate := relate_imp (fun part hpart other hother =>
      ih part hpart (hbelow part hpart) hother) h.2
    have hagree := agree_walked facets.primaryType? hparts hrelate
    rw [issueTree_object, issueTree_object, ← Facets.primaryType?_eq_of_same h.1,
      ← Facets.violations_eq_of_same h.1 hfacets.names]
    have nodup {parts : Parts Schema} : (names (mapMembers (issueTree messages)
        (Members.ofEntries (parts.walked facets.primaryType?)))).Nodup := by
      rw [names_mapMembers]
      exact nodup_ofEntries _
    refine IssueTree.same_ofIssues _ _ nodup ((relate_iff_lookup nodup nodup).mpr fun key => ?_)
    rw [lookup_mapMembers, lookup_mapMembers]
    obtain ⟨ha, hb⟩ | ⟨_, _, ha, hb, hsame⟩ := relateOption_cases (hagree key)
    · rw [ha, hb]
      rfl
    · rw [ha, hb]
      exact hsame

theorem descend_object (facets : Facets) (parts : Parts Schema) (messages : Messages) (key : String)
    (path : List String) : ((object facets parts).issueTree messages).descend (key :: path)
      = ((Members.ofEntries (parts.walked facets.primaryType?)).lookup key).bind
          fun part => (part.issueTree messages).descend path := by
  rw [IssueTree.descend, issueTree_object, IssueTree.ofIssues, IssueTree.children,
    lookup_mapMembers]
  cases (Members.ofEntries (parts.walked facets.primaryType?)).lookup key <;> rfl

/-- In the trees of equal schemas one finds the same under each path, whichever children have had to
give way to others. -/
theorem label_descend_eq_of_same (unique : a.UniqueNames) (h : a.same b = true)
    (messages : Messages) (path : List String) :
    ((a.issueTree messages).descend path).map IssueTree.label
      = ((b.issueTree messages).descend path).map IssueTree.label := by
  -- equality of trees speaks of children that are there; a path can also end where there is none
  induction path generalizing a b with
  | nil => exact congrArg some (IssueTree.same_iff.mp (same_issueTree unique h messages)).1
  | cons key path ih =>
    cases a with
    | boolean accepts =>
      cases b with
      | boolean other => rfl
      | object facets parts => cases h
    | object facets parts =>
      obtain ⟨facets', parts', rfl, -⟩ := same_object h
      rw [same_object_eq, Bool.and_eq_true] at h
      obtain ⟨-, hparts, hbelow⟩ := unique.of_object
      rw [descend_object, descend_object, ← Facets.primaryType?_eq_of_same h.1]
      obtain ⟨ha, hb⟩ | ⟨part, _, ha, hb, hsame⟩ := relateOption_cases
        (agree_walked facets.primaryType? hparts h.2 key)
      · rw [ha, hb]
      · rw [ha, hb]
        exact ih (hbelow part (exists_part_of_mem (mem_of_lookup ha))) hsame

/-! ### Equal documents -/

/-- A document counts only up to the order of its keys, at every depth. Two documents have equal
schemas if and only if they are equal; and equal documents have equal trees, with the same type, the
same issues and the same error count at every node, also where the keys of children clash. -/
theorem same_documents_iff {v w : Json} (unique : v.UniqueNames) (unique' : w.UniqueNames)
    (hv : ofJson v = .ok a) (hw : ofJson w = .ok b) :
    (a.same b = true ↔ v.same w = true)
      ∧ (v.same w = true → ∀ messages,
          (a.issueTree messages).same (b.issueTree messages) = true
            ∧ ∀ path, ((a.issueTree messages).descend path).map IssueTree.label
                = ((b.issueTree messages).descend path).map IssueTree.label) := by
  have hiff := same_loaded_iff unique unique' hv hw
  have uniqueNames := (tidy_of_ofJson? unique (ofJson_eq_ok.mp hv)).1.uniqueNames
  refine ⟨hiff, fun h messages => ?_⟩
  have hsame := hiff.mpr h
  exact ⟨same_issueTree uniqueNames hsame messages,
    label_descend_eq_of_same uniqueNames hsame messages⟩

/-- A property called `not`, before another one and beside the keyword. -/
def namesakeDocument : Json :=
  .object
    [("type", .string "object"),
     ("properties", .object
       [("not", .bool false),
        ("a", .object [("minLength", .number (.ofInt (-1))), ("type", .string "string")])]),
     ("not", .object [])]

/-- The same document with the keys of every object in reverse. -/
def reversedDocument : Json :=
  .object
    [("not", .object []),
     ("properties", .object
       [("a", .object [("type", .string "string"), ("minLength", .number (.ofInt (-1)))]),
        ("not", .bool false)]),
     ("type", .string "object")]

theorem namesakeDocument_unique : namesakeDocument.UniqueNames := by
  refine .object (by decide) ?_
  simp only [List.forall_mem_cons]
  refine ⟨.string, .object (by decide) ?_, .object List.nodup_nil (by simp), by simp⟩
  simp only [List.forall_mem_cons]
  refine ⟨.bool, .object (by decide) ?_, by simp⟩
  simp only [List.forall_mem_cons]
  exact ⟨.number, .string, by simp⟩

theorem reversedDocument_same : namesakeDocument.same reversedDocument = true := by decide

theorem same_documents_iff_reversed :
    namesakeDocument.UniqueNames ∧ reversedDocument.UniqueNames
      ∧ namesakeDocument.same reversedDocument = true
      ∧ ∃ a b, ofJson namesakeDocument = .ok a ∧ ofJson reversedDocument = .ok b
        ∧ a.same b = true ∧ (a.issueTree {}).same (b.issueTree {}) = true := by
  have unique := namesakeDocument_unique
  have unique' := unique.of_same reversedDocument_same
  obtain ⟨a, ha⟩ := (ofJson_lossless _ unique).1.mpr (.inr ⟨_, rfl⟩)
  obtain ⟨b, hb⟩ := (ofJson_lossless _ unique').1.mpr (.inr ⟨_, rfl⟩)
  obtain ⟨hiff, htrees⟩ := same_documents_iff unique unique' ha hb
  exact ⟨unique, unique', reversedDocument_same, a, b, ha, hb, hiff.mpr reversedDocument_same,
    (htrees reversedDocument_same {}).1⟩

end Schema

end JsonShape
