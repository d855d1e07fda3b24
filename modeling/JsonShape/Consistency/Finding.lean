import JsonShape.Consistency.Tree

/-!
# Findings

The findings of a tree (`IssueTree.findings`) are the issues of all its nodes, parents before
children, each with the keys that lead to its node. Subtrees with an error count of zero are left
out.
-/

namespace JsonShape

/-- An issue with its place. -/
structure Finding where
  /-- The keys from the root, each after a slash; the root itself is a lone slash. -/
  location : String
  tag : Option String
  message : String
deriving DecidableEq, Repr

namespace Finding

/-- The location of a path, which is a slash for the empty one. -/
def locationOf (path : String) : String := if path.isEmpty then "/" else path

/-- The finding of an issue at a path. -/
def ofIssue (path : String) (issue : Issue) : Finding :=
  ⟨locationOf path, issue.tag, issue.message⟩

/-- The text of a finding. -/
def text (finding : Finding) : String :=
  match finding.tag with
  | some tag => finding.location ++ " [" ++ tag ++ "] " ++ finding.message
  | none => finding.location ++ " " ++ finding.message

end Finding

namespace IssueTree

mutual

/-- The findings of a tree at a path. -/
def findingsAt (path : String) : IssueTree → List Finding
  | node _ issues children _ =>
    issues.map (Finding.ofIssue path) ++ childFindings path children

/-- The findings of children, without those that have no errors. -/
def childFindings (path : String) : List (String × IssueTree) → List Finding
  | [] => []
  | (key, child) :: rest =>
    (if 0 < child.errorCount then findingsAt (path ++ "/" ++ key) child else [])
      ++ childFindings path rest

end

/-- The findings of a tree. -/
def findings (tree : IssueTree) : List Finding := findingsAt "" tree

end IssueTree

end JsonShape
