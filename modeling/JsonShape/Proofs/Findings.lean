import JsonShape.Command.Run
import JsonShape.Proofs.Walk

/-!
# What a check reports

A check walks the tree of a schema's issues and leaves out the subtrees whose error count is zero.
The counts of such a tree add up at every node (`Schema.counted_issueTree`), so a subtree with an
issue is never left out (`IssueTree.findings_eq`).

Main statement: by `Command.findings_complete` the findings are the issues of all nodes in order,
their number is the error count, and a check succeeds exactly if there are none.
-/

namespace JsonShape

namespace IssueTree

/-! ### All nodes of a tree -/

mutual

/-- The nodes of a tree with their paths, each before the nodes below it. -/
def nodesAt (path : String) : IssueTree → List (String × IssueTree)
  | node type issues children errorCount =>
    (path, node type issues children errorCount) :: childNodes path children

/-- The nodes of children with their paths. -/
def childNodes (path : String) : List (String × IssueTree) → List (String × IssueTree)
  | [] => []
  | (key, child) :: rest => nodesAt (path ++ "/" ++ key) child ++ childNodes path rest

end

/-- The nodes of a tree with their paths. -/
def nodes (tree : IssueTree) : List (String × IssueTree) := nodesAt "" tree

/-- The issues of a node with its path. -/
def placedIssues (place : String × IssueTree) : List Finding :=
  place.2.issues.map (Finding.ofIssue place.1)

theorem childNodes_eq (path : String) (children : Members IssueTree) :
    childNodes path children
      = children.flatMap fun child => nodesAt (path ++ "/" ++ child.1) child.2 := by
  induction children with
  | nil => rw [childNodes, List.flatMap_nil]
  | cons child rest ih =>
    obtain ⟨key, child⟩ := child
    rw [childNodes, ih, List.flatMap_cons]

theorem childFindings_eq (path : String) (children : Members IssueTree) :
    childFindings path children = children.flatMap fun child =>
      if 0 < child.2.errorCount then findingsAt (path ++ "/" ++ child.1) child.2 else [] := by
  induction children with
  | nil => rw [childFindings, List.flatMap_nil]
  | cons child rest ih =>
    obtain ⟨key, child⟩ := child
    rw [childFindings, ih, List.flatMap_cons]

/-! ### Trees whose counts add up -/

/-- The error count of every node is the number of its own issues plus those of its children. -/
inductive Counted : IssueTree → Prop
  | ofIssues {type issues children} : (∀ child ∈ children, Counted child.2) →
      Counted (.ofIssues type issues children)

variable {tree : IssueTree}

theorem length_issues (counted : tree.Counted) (path : String) :
    ((nodesAt path tree).flatMap placedIssues).length = tree.errorCount := by
  induction counted generalizing path with
  | @ofIssues type issues children _ ih =>
    have hchildren : ((childNodes path children).flatMap placedIssues).length
        = totalCount children := by
      rw [childNodes_eq, List.flatMap_assoc, List.length_flatMap, totalCount_eq]
      exact congrArg List.sum (List.map_congr_left fun child hchild => ih child hchild _)
    rw [ofIssues, nodesAt, List.flatMap_cons, List.length_append, hchildren]
    congr 1
    exact List.length_map _

/-- Leaving out subtrees without errors leaves out no issue. -/
theorem findingsAt_eq (counted : tree.Counted) (path : String) :
    findingsAt path tree = (nodesAt path tree).flatMap placedIssues := by
  induction counted generalizing path with
  | @ofIssues type issues children hbelow ih =>
    rw [ofIssues, findingsAt, nodesAt, List.flatMap_cons, childFindings_eq, childNodes_eq,
      List.flatMap_assoc]
    congr 1
    refine List.flatMap_congr fun child hchild => ?_
    split
    · exact ih child hchild _
    · next hzero =>
      -- without errors there is no issue to be listed
      have hlength := length_issues (hbelow child hchild) (path ++ "/" ++ child.1)
      exact (List.eq_nil_of_length_eq_zero (by omega)).symm

/-- Below a node without errors there is no node with one. -/
theorem errorCount_of_mem_nodesAt (counted : tree.Counted) (hzero : tree.errorCount = 0)
    {path : String} {place : String × IssueTree} (h : place ∈ nodesAt path tree) :
    place.2.errorCount = 0 := by
  induction counted generalizing path with
  | @ofIssues type issues children _ ih =>
    rw [ofIssues, nodesAt, List.mem_cons, childNodes_eq, List.mem_flatMap] at h
    rcases h with rfl | ⟨child, hchild, hplace⟩
    · exact hzero
    · -- a sum of counts is zero only if all of them are
      have htotal : totalCount children = 0 := by
        have hsum : issues.length + totalCount children = 0 := hzero
        omega
      rw [totalCount_eq, List.sum_eq_zero_iff_forall_eq_nat, List.forall_mem_map] at htotal
      exact ih child hchild (htotal child hchild) hplace

theorem findings_eq (counted : tree.Counted) : tree.findings = tree.nodes.flatMap placedIssues :=
  findingsAt_eq counted ""

theorem length_findings (counted : tree.Counted) : tree.findings.length = tree.errorCount := by
  rw [findings_eq counted]
  exact length_issues counted ""

end IssueTree

namespace Schema

open Members

variable (messages : Messages)

/-- The children of a schema's node are nodes of its parts. -/
theorem exists_part_of_mem {facets : Facets} {parts : Parts Schema} {key : String}
    {part : Schema} (h : (key, part) ∈ ofEntries (parts.walked facets.primaryType?)) :
    part ∈ parts.toList := by
  rcases mem_insertAll h with hnil | hwalked
  · cases hnil
  · exact mem_toList_of_child (Parts.mem_walked_iff.mp hwalked)

theorem counted_issueTree (schema : Schema) : (schema.issueTree messages).Counted := by
  induction schema using Schema.induction with
  | boolean accepts => exact .ofIssues fun _ h => (by cases h)
  | object facets parts ih =>
    rw [issueTree_object]
    refine .ofIssues fun child hchild => ?_
    obtain ⟨part, hpart, heq⟩ := mem_mapMembers.mp hchild
    rw [← heq]
    exact ih part (exists_part_of_mem hpart)

end Schema

namespace Command

open IssueTree

/-- A check of a schema that can be read succeeds exactly if its tree has no error. -/
theorem runCheck_ok {inputs rest : CommandInputs} {path text : String}
    {messagesPath : Option String} {schema : Schema} {messages : Messages} (json : Bool)
    (hload : load inputs path = .ok (text, rest)) (hschema : Schema.read text = .ok schema)
    (hmessages : loadMessages rest messagesPath = .ok messages) :
    ∃ outcome, runCheck inputs path messagesPath json = .ok outcome
      ∧ (outcome.exitCode = 0 ↔ (schema.issueTree messages).errorCount = 0) := by
  have hrun : runCheck inputs path messagesPath json = .ok (.ofCheck
      ((schema.issueTree messages).errorCount == 0)
      (if json then (schema.issueTree messages).toJson.pretty
        else issueText (schema.issueTree messages))) := by
    unfold runCheck
    rw [hload]
    show Except.bind ((Schema.read text).mapError _) _ = _
    rw [hschema]
    show Except.bind (loadMessages rest messagesPath) _ = _
    rw [hmessages]
    rfl
  refine ⟨_, hrun, ?_⟩
  show (if ((schema.issueTree messages).errorCount == 0) = true then 0 else 1) = 0 ↔ _
  by_cases h : (schema.issueTree messages).errorCount = 0 <;> simp [h]

/-- A check reports everything that it counts. Its findings are the issues of all nodes, each node
before those below it; there are as many as the error count says; and it succeeds exactly if there
are none. -/
theorem findings_complete (schema : Schema) (messages : Messages) :
    let tree := schema.issueTree messages
    tree.findings = tree.nodes.flatMap placedIssues
      ∧ tree.findings.length = tree.errorCount
      ∧ ∀ inputs rest path text messagesPath json, load inputs path = .ok (text, rest) →
        Schema.read text = .ok schema → loadMessages rest messagesPath = .ok messages →
        ∃ outcome, runCheck inputs path messagesPath json = .ok outcome
          ∧ (outcome.exitCode = 0 ↔ tree.findings = []) := by
  intro tree
  have hcounted : tree.Counted := schema.counted_issueTree messages
  have hlength := length_findings hcounted
  refine ⟨findings_eq hcounted, hlength, ?_⟩
  intro inputs rest path text messagesPath json hload hschema hmessages
  obtain ⟨outcome, hrun, hexit⟩ := runCheck_ok json hload hschema hmessages
  refine ⟨outcome, hrun, hexit.trans ?_⟩
  rw [← List.length_eq_zero_iff, hlength]

/-- A schema with an error in one property and another one under `not`; the property `a` and what is
below it have none. -/
def nestedText : String :=
  "\x7b\"type\": \"object\", \"properties\": \x7b"
    ++ "\"a\": \x7b\"type\": \"array\", \"items\": true\x7d, "
    ++ "\"b\": \x7b\"type\": \"string\", \"minLength\": 2, \"maxLength\": 1\x7d\x7d, "
    ++ "\"not\": false\x7d"

/-- The standard input holds that schema. -/
def nestedInputs : CommandInputs := ⟨.ok nestedText, fun _ => .error .notFound⟩

/-- The error counts of the nodes of its tree. -/
def nestedCounts : List (String × Nat) :=
  [("", 2), ("/a", 0), ("/a/items", 0), ("/b", 1), ("/not", 1)]

/-- What is reported of it, which leaves out `/a` and what is below. -/
def nestedFindings : List Finding :=
  [⟨"/b", some "length", "Minimum length must not exceed maximum length"⟩,
   ⟨"/not", none, "Schema does not accept any value"⟩]

theorem findings_complete_nested :
    load nestedInputs "-" = .ok (nestedText, { nestedInputs with stdin := .ok "" })
      ∧ ∃ schema, Schema.read nestedText = .ok schema
        ∧ (schema.issueTree {}).nodes.map (fun place => (place.1, place.2.errorCount))
          = nestedCounts
        ∧ (schema.issueTree {}).findings = nestedFindings
        ∧ ∃ outcome, runCheck nestedInputs "-" none false = .ok outcome
          ∧ outcome.exitCode ≠ 0 := by
  have hload : load nestedInputs "-" = .ok (nestedText, { nestedInputs with stdin := .ok "" }) :=
    rfl
  -- the schema is read once, and its tree with all counts is compared as a whole
  have hread : (Schema.read nestedText).toOption.map (fun schema =>
      ((schema.issueTree {}).nodes.map fun place => (place.1, place.2.errorCount),
        (schema.issueTree {}).findings)) = some (nestedCounts, nestedFindings) := by decide +kernel
  cases hschema : Schema.read nestedText with
  | error fault =>
    rw [hschema] at hread
    cases hread
  | ok schema =>
    rw [hschema] at hread
    obtain ⟨hcounts, hfindings⟩ := Prod.mk.inj (Option.some.inj hread)
    obtain ⟨outcome, hrun, hexit⟩ :=
      (findings_complete schema {}).2.2 _ _ _ _ none false hload hschema rfl
    refine ⟨hload, schema, rfl, hcounts, hfindings, outcome, hrun, fun hzero => ?_⟩
    rw [hexit.mp hzero] at hfindings
    cases hfindings

end Command

end JsonShape
