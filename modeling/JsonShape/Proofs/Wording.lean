import JsonShape.Proofs.Findings

/-!
# The wording of issues

The rules decide on violations, and a violation gets its text from the table of messages only when
it is reported. What is left of a tree when the texts are taken out is its verdict.

Main statement: `Schema.verdict_issueTree_eq`, the verdict on a schema is the same under all tables
of messages.
-/

namespace JsonShape

open Parts

/-- A tree without the texts of its issues. -/
inductive Verdict
  | node (type : Option CheckedType) (success : Bool) (tags : List (Option String))
    (children : List (String × Verdict)) (errorCount : Nat)

namespace IssueTree

mutual

/-- The tree with only the tags of its issues. A node succeeds if it has none. -/
def verdict : IssueTree → Verdict
  | node type issues children errorCount =>
    .node type issues.isEmpty (issues.map Issue.tag) (verdicts children) errorCount

/-- The verdicts on children. -/
def verdicts : List (String × IssueTree) → List (String × Verdict)
  | [] => []
  | (key, child) :: rest => (key, verdict child) :: verdicts rest

end

theorem verdicts_eq (children : Members IssueTree) :
    verdicts children = mapMembers verdict children := by
  induction children with
  | nil => rw [verdicts, mapMembers, List.map_nil]
  | cons child rest ih =>
    obtain ⟨key, child⟩ := child
    rw [verdicts, ih, mapMembers, mapMembers, List.map_cons]

end IssueTree

/-- The number of issues in the whole tree. -/
def Verdict.errorCount : Verdict → Nat
  | node _ _ _ _ errorCount => errorCount

namespace IssueTree

theorem errorCount_verdict (tree : IssueTree) : tree.verdict.errorCount = tree.errorCount := by
  obtain ⟨type, issues, children, errorCount⟩ := tree
  rw [verdict]
  rfl

/-- The verdict on a node depends on its issues only through their tags, and on its children only
through the verdicts on them. -/
theorem verdict_ofIssues (type : Option CheckedType) (issues : List Issue)
    (children : Members IssueTree) :
    (ofIssues type issues children).verdict
      = .node type issues.isEmpty (issues.map Issue.tag) (mapMembers verdict children)
          (issues.length
            + ((mapMembers verdict children).map fun child => child.2.errorCount).sum) := by
  -- the count of a child can be read off its verdict, and so can the sum
  have htotal : totalCount children
      = ((mapMembers verdict children).map fun child => child.2.errorCount).sum := by
    rw [totalCount_eq, mapMembers, List.map_map]
    exact congrArg List.sum (List.map_congr_left fun child _ => (errorCount_verdict child.2).symm)
  rw [ofIssues, verdict, verdicts_eq, htotal]

/-- Reported violations leave their tags, whatever their texts are. -/
theorem verdict_ofViolations (type : Option CheckedType) (violations : List Violation)
    (messages : Messages) (children : Members IssueTree) :
    (ofIssues type (violations.map (Violation.issue messages)) children).verdict
      = .node type violations.isEmpty (violations.map Violation.tag?) (mapMembers verdict children)
          (violations.length
            + ((mapMembers verdict children).map fun child => child.2.errorCount).sum) := by
  rw [verdict_ofIssues, List.isEmpty_map, List.map_map, List.length_map]
  rfl

end IssueTree

namespace Schema

open Members

/-- The messages do not influence the verdict: under any two tables the tree of a schema has the
same nodes under the same keys in the same order, and each node has the same type, the same tags in
the same order, the same success and the same error count. -/
theorem verdict_issueTree_eq (schema : Schema) (messages messages' : Messages) :
    (schema.issueTree messages).verdict = (schema.issueTree messages').verdict := by
  induction schema using Schema.induction with
  | boolean accepts => cases accepts <;> rfl
  | object facets parts ih =>
    -- the children have the same verdicts by induction, whichever the table
    have hchildren :
        mapMembers IssueTree.verdict (mapMembers (issueTree messages)
            (ofEntries (parts.walked facets.primaryType?)))
          = mapMembers IssueTree.verdict (mapMembers (issueTree messages')
            (ofEntries (parts.walked facets.primaryType?))) := by
      simp only [mapMembers, List.map_map]
      refine List.map_congr_left fun child hchild => ?_
      exact congrArg (Prod.mk child.1) (ih child.2 (exists_part_of_mem hchild))
    rw [issueTree_object, issueTree_object, IssueTree.verdict_ofViolations,
      IssueTree.verdict_ofViolations, hchildren]

end Schema

end JsonShape
