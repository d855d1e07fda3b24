import JsonShape.Proofs.ChildKeys
import Mathlib.Algebra.Ring.Nat

/-!
# The children of a schema's node

The children of the node of an object schema are the nodes of the sub-schemas that are checked with
it. Where two of these have the same key, the later node takes the place of the earlier, whose
errors are then not counted.

Main statement: by `Schema.children_complete_iff` the children are complete exactly if no property
is called like the place of another child, and their errors exactly if there are none below such
properties.
-/

namespace JsonShape

theorem IssueTree.totalCount_eq (children : Members IssueTree) :
    totalCount children = (children.map fun child => child.2.errorCount).sum := by
  induction children with
  | nil => rfl
  | cons child rest ih =>
    show child.2.errorCount + totalCount rest = _
    rw [ih, List.map_cons, List.sum_cons]

namespace Schema

open Members Parts

variable (messages : Messages) (facets : Facets) {parts : Parts Schema}

theorem issueTree_object (parts : Parts Schema) :
    (object facets parts).issueTree messages
      = .ofIssues (facets.primaryType?.map .declared)
          ((facets.violations facets.primaryType?).map (Violation.issue messages))
          (mapMembers (issueTree messages)
            (Members.ofEntries (parts.walked facets.primaryType?))) := by
  unfold issueTree
  rw [fold_object, ← ofEntries_mapMembers, ← walked_map]

theorem errorCount_object (parts : Parts Schema) :
    ((object facets parts).issueTree messages).errorCount
      = (facets.violations facets.primaryType?).length
        + ((Members.ofEntries (parts.walked facets.primaryType?)).map
            fun child => (child.2.issueTree messages).errorCount).sum := by
  rw [issueTree_object]
  show List.length _ + IssueTree.totalCount _ = _
  rw [List.length_map, IssueTree.totalCount_eq, mapMembers, List.map_map]
  rfl

/-- Only the errors below properties that are called like the place of another child are lost. -/
theorem errorCount_add_lost (unique : parts.UniqueNames) :
    let type := facets.primaryType?
    let errors := fun child : String × Schema => (child.2.issueTree messages).errorCount
    ((object facets parts).issueTree messages).errorCount
        + (((propertyChildren type parts).filter
            fun child => child.1 ∈ names (keywordChildren type parts).flatten).map errors).sum
      = (facets.violations type).length + ((parts.walked type).map errors).sum := by
  intro type errors
  let properties := propertyChildren type parts
  let others := (keywordChildren type parts).flatten
  -- the other children come last and replace the properties whose keys they repeat
  have hkept : ((Members.ofEntries (parts.walked type)).map errors).sum
      = ((properties.filter fun child => child.1 ∉ names others).map errors).sum
        + (others.map errors).sum := by
    have hperm := ofEntries_append_perm (nodup_propertyChildren type unique)
      (nodup_keywordChildren type unique)
    rw [walked_eq, (hperm.map errors).sum_nat, List.map_append, List.sum_append]
  have hsplit : ((properties.filter fun child => child.1 ∈ names others).map errors).sum
        + ((properties.filter fun child => child.1 ∉ names others).map errors).sum
      = (properties.map errors).sum := by
    have hperm := List.filter_append_perm (fun child => decide (child.1 ∈ names others)) properties
    rw [← (hperm.map errors).sum_nat, List.map_append, List.sum_append]
    simp only [decide_not]
  have hwalked : ((parts.walked type).map errors).sum
      = (properties.map errors).sum + (others.map errors).sum := by
    rw [walked_eq, List.map_append, List.sum_append]
  have hcount : ((object facets parts).issueTree messages).errorCount
      = (facets.violations type).length
        + ((Members.ofEntries (parts.walked type)).map errors).sum := errorCount_object ..
  show _ + ((properties.filter fun child => child.1 ∈ names others).map errors).sum = _
  omega

theorem lost_errors_eq_zero_iff (unique : parts.UniqueNames) :
    let type := facets.primaryType?
    let errors := fun child : String × Schema => (child.2.issueTree messages).errorCount
    ((object facets parts).issueTree messages).errorCount
        = (facets.violations type).length + ((parts.walked type).map errors).sum ↔
      ∀ name part, (name, part) ∈ propertyChildren type parts →
        (∃ other, KeywordChild type parts name other) →
          (part.issueTree messages).errorCount = 0 := by
  intro type errors
  have hlost : ((object facets parts).issueTree messages).errorCount
        + (((propertyChildren type parts).filter
            fun child => child.1 ∈ names (keywordChildren type parts).flatten).map errors).sum
      = (facets.violations type).length + ((parts.walked type).map errors).sum :=
    errorCount_add_lost messages facets unique
  -- the sum is right exactly if nothing was lost, and nothing is negative
  have hzero : ((object facets parts).issueTree messages).errorCount
        = (facets.violations type).length + ((parts.walked type).map errors).sum ↔
      (((propertyChildren type parts).filter
        fun child => child.1 ∈ names (keywordChildren type parts).flatten).map errors).sum = 0 := by
    omega
  rw [hzero, List.sum_eq_zero_iff_forall_eq_nat, List.forall_mem_map]
  constructor
  · intro h name part hmem hclash
    exact h (name, part) (List.mem_filter.mpr
      ⟨hmem, decide_eq_true (mem_names_keywordChildren.mpr hclash)⟩)
  · rintro h ⟨name, part⟩ hmem
    obtain ⟨hmem, hclash⟩ := List.mem_filter.mp hmem
    exact h name part hmem (mem_names_keywordChildren.mp (of_decide_eq_true hclash))

/-- When the children of an object schema are complete. Their keys are different, and there is one
node for each of them, exactly if no property is called like the place of another child. Their
errors are all counted exactly if there are none below such a property. -/
theorem children_complete_iff (unique : parts.UniqueNames) :
    let type := facets.primaryType?
    let places := parts.walked type
    let tree := (object facets parts).issueTree messages
    ((names places).Nodup ↔ Unclashing type parts)
      ∧ (tree.children.length = places.length ↔ Unclashing type parts)
      ∧ (tree.children = mapMembers (issueTree messages) places ↔ Unclashing type parts)
      ∧ (tree.errorCount = tree.issues.length
            + (places.map fun child => (child.2.issueTree messages).errorCount).sum ↔
          ∀ name part, type = some .object → (name, part) ∈ parts.properties.getD [] →
            (∃ other, KeywordChild type parts name other) →
              (part.issueTree messages).errorCount = 0) := by
  intro type places tree
  have htree : tree.children = mapMembers (issueTree messages) (Members.ofEntries places) := by
    show IssueTree.children ((object facets parts).issueTree messages) = _
    rw [issueTree_object]
    rfl
  have hissues : tree.issues.length = (facets.violations type).length := by
    show (IssueTree.issues ((object facets parts).issueTree messages)).length = _
    rw [issueTree_object]
    exact List.length_map ..
  have hlength : tree.children.length = places.length ↔ (names places).Nodup := by
    rw [htree, mapMembers, List.length_map, length_ofEntries_eq_iff]
  have hnodup : (names places).Nodup ↔ Unclashing type parts := nodup_walked_iff unique
  refine ⟨hnodup, hlength.trans hnodup, ?_, ?_⟩
  · constructor
    · intro h
      refine (hlength.trans hnodup).mp ?_
      rw [h, mapMembers, List.length_map]
    · intro h
      rw [htree, ofEntries_of_nodup (hnodup.mpr h)]
  · rw [hissues]
    refine (lost_errors_eq_zero_iff messages facets unique).trans ?_
    simp only [propertyChildren, mem_guarded, and_imp]
    exact Iff.rfl

/-- A property called `not` that accepts no value, beside the keyword. -/
def namesakeParts : Parts Schema :=
  { properties := some [("not", boolean false)]
    negation := some empty }

theorem namesakeParts_unique : namesakeParts.UniqueNames := by
  intro keyword
  cases keyword <;> decide

theorem namesakeParts_not_complete :
    namesakeParts.UniqueNames
      ∧ ¬ (names (namesakeParts.walked (Facets.typed .object).primaryType?)).Nodup := by
  refine ⟨namesakeParts_unique, fun h => ?_⟩
  have hcomplete := children_complete_iff {} (Facets.typed .object) namesakeParts_unique
  exact hcomplete.1.mp h rfl "not" (by decide) _ (.negation rfl)

/-- The error below the property is in no node. -/
theorem namesake_error_lost :
    namesakeParts.UniqueNames
      ∧ ¬ (names (namesakeParts.walked (some .object))).Nodup
      ∧ (namesakeParts.walked (some .object)).length = 2
      ∧ ((object (Facets.typed .object) namesakeParts).issueTree {}).children.length = 1
      ∧ ((object (Facets.typed .object) namesakeParts).issueTree {}).errorCount = 0
      ∧ ((namesakeParts.walked (some .object)).map
          fun child => (child.2.issueTree {}).errorCount).sum = 1 := by
  exact ⟨namesakeParts_unique, by decide, by decide, by decide, by decide, by decide⟩

end Schema

end JsonShape
